/-
The stream of a watch that a caller opened: the items of the cluster's watch with typed objects, until
the call is cancelled. After that it never gives anything again.
-/
import AccessGate.Cluster.Watch
import AccessGate.Error.Access
import AccessGate.Kind.Basic

namespace AccessGate.Client

open Cluster (Store Watch WatchItem)

/-- A stream of typed objects. -/
structure Stream where
  kind : Kind
  watch : Watch
  ended : Bool := false

namespace Stream

/-- An item with its object read as a typed one. -/
def typedItem (k : Kind) : WatchItem Cluster.Object → Except AccessError (WatchItem Json)
  | .change c o =>
    match k.ofObject? o with
    | some j => .ok (.change c j)
    | none => .error .conversion
  | .bookmark b => .ok (.bookmark b)
  | .error e => .ok (.error e)

/-- The stream after the call that opened it may have been cancelled. -/
def afterCancel (w : Stream) (cancelled : Bool) : Stream :=
  { w with ended := w.ended || cancelled }

/-- At most so many items that the stream gives now, and the stream afterwards. -/
def take (s : Store) (cancelled : Bool) (n : Nat) (w : Stream) :
    List (Except AccessError (WatchItem Json)) × Stream :=
  let w := w.afterCancel cancelled
  if w.ended then ([], w)
  else
    let r := w.watch.take s n
    (r.1.map (typedItem w.kind), { w with watch := r.2 })

/-- Everything that the stream gives now. -/
def drain (s : Store) (cancelled : Bool) (w : Stream) :
    List (Except AccessError (WatchItem Json)) × Stream :=
  w.take s cancelled (w.watch.bound s)

end Stream

end AccessGate.Client
