/-
Watching a collection. A watch first gives the objects that were there when it was opened, unless it
was opened at a resource version, and then every later change. It may fall behind by 256 changes: if
more are waiting, the oldest are lost and one error says how many. A watch never ends by itself.
-/
import AccessGate.Cluster.Store

namespace AccessGate.Cluster

/-- The progress mark that an API server sends between changes. -/
structure Bookmark where
  types : TypeNames
  resourceVersion : String
  annotations : Assoc String String
deriving DecidableEq, Repr

/-- What a watch gives. -/
inductive WatchItem (α : Type) where
  | change (c : Change) (object : α)
  | bookmark (b : Bookmark)
  | error (status : ApiStatus)
deriving Repr

/-- How many changes may wait. -/
def watchWindow : Nat := 256

/-- An open watch: objects still to be given, and where it stands in what is published. -/
structure Watch where
  target : Target
  selector : Selector
  initial : List Object
  position : Nat
deriving Repr

/-- The error that a watch gives when changes were lost. -/
def expired (missed : Nat) : ApiStatus :=
  ⟨"Failure", "watch fell behind by " ++ toString missed ++ " events", "Expired", 410⟩

namespace Watch

/-- Whether a change is one that the watch is about. -/
def sees (w : Watch) (e : Event) : Bool :=
  w.target.covers e.place && w.selector.isMatch e.object

/-- The first change that the watch is about, with the number of changes up to it. -/
def firstSeen (w : Watch) : List Event → Option (Event × Nat)
  | [] => none
  | e :: rest => if w.sees e then some (e, 1) else (w.firstSeen rest).map fun r => (r.1, r.2 + 1)

/-- What the watch gives next, if anything is there, and the watch afterwards. -/
def next (s : Store) (w : Watch) : Option (WatchItem Object) × Watch :=
  match w.initial with
  | o :: rest => (some (.change .added o), { w with initial := rest })
  | [] =>
    let waiting := s.events.length - w.position
    if watchWindow < waiting then
      (some (.error (expired (waiting - watchWindow))),
        { w with position := s.events.length - watchWindow })
    else
      match w.firstSeen (s.events.drop w.position) with
      | some (e, n) => (some (.change e.change e.object), { w with position := w.position + n })
      | none => (none, { w with position := s.events.length })

/-- What the watch gives until nothing is there, at most so many items. -/
def take (s : Store) : Nat → Watch → List (WatchItem Object) × Watch
  | 0, w => ([], w)
  | n + 1, w =>
    match w.next s with
    | (none, w) => ([], w)
    | (some i, w) =>
      let r := w.take s n
      (i :: r.1, r.2)

/-- More items than the watch can give before something else is published. -/
def bound (s : Store) (w : Watch) : Nat :=
  w.initial.length + s.events.length + 2

/-- Everything that the watch gives now. -/
def drain (s : Store) (w : Watch) : List (WatchItem Object) × Watch :=
  w.take s (w.bound s)

end Watch

/-- Whether a watch opened at this resource version starts with the objects that are there. -/
def replaysObjects (resourceVersion : String) : Bool :=
  resourceVersion = "" || resourceVersion = "0"

/-- Opens a watch. -/
def Store.watch (s : Store) (t : Target) (sel : Selection) (resourceVersion : String) :
    Except Error Watch × Store :=
  let s := s.logged (Store.logEntry "watch" t none)
  (sel.selector.map fun sel =>
    { target := t
      selector := sel
      initial := if replaysObjects resourceVersion then (s.select t sel).values else []
      position := s.events.length }, s)

end AccessGate.Cluster
