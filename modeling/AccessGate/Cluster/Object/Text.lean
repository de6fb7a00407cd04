/-
Reading objects and their metadata from drafts. The metadata has its own shape; all other members are
values, and of equal ones the last counts.
-/
import AccessGate.Cluster.Object
import AccessGate.Kind.Shape.Text

namespace AccessGate.Cluster

open Json (Draft Fault)

/-- The members of an object of which one is read by itself and may not be there twice: that one, if it is
there, and the values of the others. -/
def splitMember {α : Type} (name : String) (read : Draft → Except Fault α) (depth : Nat) :
    Option α → List (String × Json) → List (Draft × Draft) → Except Fault (Option α × List (String × Json))
  | own, others, [] => .ok (own, others)
  | own, others, (k, d) :: rest => do
    let k ← k.text
    if k = name then
      if own.isSome then .error .unfit
      else do
        let a ← read d
        splitMember name read depth (some a) others rest
    else do
      let j ← d.value depth
      splitMember name read depth own (others ++ [(k, j)]) rest

def Metadata.ofDraft (depth : Nat) (d : Draft) : Except Fault Metadata :=
  (Metadata.shape.ofDraft depth d).map Metadata.ofShaped

/-- Reads an object, as `Object.ofJson?` does for documents. -/
def Object.ofDraft : Nat → Draft → Except Fault Object
  | _, .scalar (.error f) _ => .error f
  | depth + 1, .object members _ => do
    let (metadata, others) ← splitMember "metadata" (Metadata.ofDraft depth) depth none [] members
    let (types, data) := TypeNames.take none none others
    .ok { types, metadata := metadata.getD {}, data := Assoc.ofBindings data }
  | _, _ => .error .unfit

end AccessGate.Cluster
