/-
Machines that run patterns over a text, from its first character to its last. A machine follows all
threads at once, the preferred first. A thread may start at every place as long as none has come to its
end; one that has ends all less preferred ones. A text fits if a thread is at its end right where the
text ends, so what counts is the end of the first match, and not whether the whole text is one.
-/
import AccessGate.Text.Pattern

namespace AccessGate.Text

/-- What a thread does at a state. -/
inductive Step where
  | char (k : CharClass) (next : Nat)
  | edge (e : Edge) (next : Nat)
  /-- Goes both ways, the first one preferred. -/
  | fork (first second : Nat)
  | finish
deriving DecidableEq, Repr, Inhabited

/-- A machine: what happens at each state, and where threads start. -/
structure Machine where
  steps : Array Step
  start : Nat
deriving DecidableEq, Repr

namespace Pattern

/-- A fork that goes on if greedy, and else prefers to leave. -/
def forkTo (greedy : Bool) (on leave : Nat) : Step :=
  if greedy then .fork on leave else .fork leave on

/-- The states for a pattern that is followed by the state `next`, added to others: where they are
entered, and all of them. -/
def compile : Pattern → Nat → Array Step → Nat × Array Step
  | empty, next, m => (next, m)
  | char k, next, m => (m.size, m.push (.char k next))
  | edge e, next, m => (m.size, m.push (.edge e next))
  | seq p q, next, m =>
    let (entry, m) := q.compile next m
    p.compile entry m
  | either p q, next, m =>
    let (second, m) := q.compile next m
    let (first, m) := p.compile next m
    (m.size, m.push (.fork first second))
  | optional greedy p, next, m =>
    let (on, m) := p.compile next m
    (m.size, m.push (forkTo greedy on next))
  | more greedy p, next, m =>
    let again := m.size
    -- The state after the pattern leads back to it, so it is there before the pattern is.
    let (on, m) := p.compile again (m.push .finish)
    (on, m.setIfInBounds again (forkTo greedy on next))

end Pattern

namespace Machine

/-- The machine for a pattern; its first state is the end. -/
def ofPattern (p : Pattern) : Machine :=
  let (start, steps) := p.compile 0 #[.finish]
  ⟨steps, start⟩

/-- The states that are reached at a place without a character, the latest first; `seen` were reached
before. -/
def reach (m : Machine) (p : Place) : Nat → List Nat → List Nat → List Nat
  | 0, _, seen => seen
  | _ + 1, [], seen => seen
  | fuel + 1, i :: rest, seen =>
    if seen.contains i then m.reach p fuel rest seen
    else
      match m.steps[i]? with
      | some (.fork first second) => m.reach p fuel (first :: second :: rest) (i :: seen)
      | some (.edge e next) => m.reach p fuel (if e.holds p then next :: rest else rest) (i :: seen)
      | _ => m.reach p fuel rest (i :: seen)

/-- The threads at a place, the preferred first, given where they come from. -/
def threads (m : Machine) (p : Place) (entries : List Nat) : List Nat :=
  (m.reach p (entries.length + 2 * m.steps.size + 1) entries []).reverse

/-- Whether a thread at a state is at its end. -/
def isFinished (m : Machine) (i : Nat) : Bool :=
  m.steps[i]? == some .finish

/-- Where a thread at a state goes with a character. -/
def after? (m : Machine) (c : Char) (i : Nat) : Option Nat :=
  match m.steps[i]? with
  | some (.char k next) => if k.has c then some next else none
  | _ => none

/-- A machine between two characters: where its threads come from, and whether threads still start. -/
structure Progress where
  entries : List Nat
  starting : Bool
deriving Repr

/-- Whether a thread that starts within a character would be at its end there. -/
def finishesWithin (m : Machine) (c : Char) : Bool :=
  1 < c.utf8Size && (m.threads ⟨some c, some c⟩ [m.start]).any m.isFinished

/-- Takes a character. -/
def advance (m : Machine) (s : Progress) (before : Option Char) (c : Char) : Progress :=
  let all := m.threads ⟨before, some c⟩ s.entries
  let preferred := all.takeWhile (!m.isFinished ·)
  let starting := s.starting && preferred.length = all.length && !m.finishesWithin c
  ⟨preferred.filterMap (m.after? c) ++ (if starting then [m.start] else []), starting⟩

/-- Whether a thread is at its end when the rest of a text has been taken. -/
def finishes (m : Machine) (s : Progress) (before : Option Char) : List Char → Bool
  | [] => (m.threads ⟨before, none⟩ s.entries).any m.isFinished
  | c :: rest => m.finishes (m.advance s before c) (some c) rest

end Machine

/-- Whether a text fits a pattern. -/
def Pattern.fits (p : Pattern) (s : String) : Bool :=
  let m := Machine.ofPattern p
  m.finishes ⟨[m.start], true⟩ none s.toList

end AccessGate.Text
