/-
Finite maps as lists of pairs. Every map the gate keeps (labels, claims, rules, stored objects) is
such a list in ascending key order, so that two maps with the same bindings are the same list and
walking a map visits its keys in order.
-/
namespace AccessGate

/-- A finite map: its bindings, one per key, in ascending key order. -/
abbrev Assoc (κ : Type) (α : Type) := List (κ × α)

namespace Assoc

variable {κ : Type} {α β : Type}

/-- The value bound to a key. -/
def get? [DecidableEq κ] (m : Assoc κ α) (k : κ) : Option α :=
  match m with
  | [] => none
  | (k', v) :: rest => if k = k' then some v else Assoc.get? rest k

/-- Whether a key is bound. -/
def has [DecidableEq κ] (m : Assoc κ α) (k : κ) : Bool :=
  (m.get? k).isSome

/-- Binds a key, replacing what it was bound to. -/
def insert [Ord κ] (m : Assoc κ α) (k : κ) (v : α) : Assoc κ α :=
  match m with
  | [] => [(k, v)]
  | (k', v') :: rest =>
    match compare k k' with
    | .lt => (k, v) :: (k', v') :: rest
    | .eq => (k, v) :: rest
    | .gt => (k', v') :: Assoc.insert rest k v

/-- Removes a key. -/
def erase [DecidableEq κ] (m : Assoc κ α) (k : κ) : Assoc κ α :=
  m.filter fun b => decide (b.1 ≠ k)

/-- The map of a list of bindings, of which the last for a key counts. -/
def ofBindings [Ord κ] (bs : List (κ × α)) : Assoc κ α :=
  bs.foldl (fun m b => m.insert b.1 b.2) []

/-- The keys in ascending order. -/
def keys (m : Assoc κ α) : List κ :=
  m.map Prod.fst

/-- The values in the order of their keys. -/
def values (m : Assoc κ α) : List α :=
  m.map Prod.snd

/-- Maps every value; keys and order stay. -/
def mapValues (f : α → β) (m : Assoc κ α) : Assoc κ β :=
  m.map fun b => (b.1, f b.2)

/-- Keys strictly ascend, the shape that every operation here keeps. -/
def Ascending [Ord κ] (m : Assoc κ α) : Prop :=
  m.Pairwise fun a b => compare a.1 b.1 = .lt

end Assoc

end AccessGate
