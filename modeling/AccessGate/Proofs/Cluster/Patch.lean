/-
Merge patches of objects. A patch leaves alone what it does not name, so an object that is patched keeps the
other members of its document, and its metadata if they are not named (`Object.ofJson?_mergeMembers`).
-/
import AccessGate.Cluster.Patch
import AccessGate.Proofs.Cluster.Object

namespace AccessGate

namespace Json

/-- The members of an object after one change of a merge patch. -/
def mergeMember (target : Assoc String Json) (k : String) : Json → Assoc String Json
  | .null => target.erase k
  | v => target.insert k (mergePatch ((target.get? k).getD .null) v)

theorem mergeMembers_cons (target : Assoc String Json) (k : String) (v : Json) (rest : List (String × Json)) :
    mergeMembers target ((k, v) :: rest) = mergeMembers (mergeMember target k v) rest := by
  cases v <;> rw [mergeMembers] <;> simp [mergeMember]

theorem ascending_mergeMember {target : Assoc String Json} (h : target.Ascending) (k : String) (v : Json) :
    (mergeMember target k v).Ascending := by
  cases v with
  | null => exact h.erase k
  | _ => exact h.insert ..

theorem get?_mergeMember_of_ne {k k' : String} (h : k' ≠ k) (target : Assoc String Json) (v : Json) :
    (mergeMember target k v).get? k' = target.get? k' := by
  cases v with
  | null => exact Assoc.get?_erase_of_ne h target
  | _ => exact Assoc.get?_insert_of_ne h ..

/-- By induction on the changes, for any target that those before them leave. -/
theorem ascending_mergeMembers (changes : List (String × Json)) :
    ∀ {target : Assoc String Json}, target.Ascending → (mergeMembers target changes).Ascending := by
  induction changes with
  | nil =>
    intro target h
    rw [mergeMembers]
    exact h
  | cons c changes ih =>
    intro target h
    rw [mergeMembers_cons]
    exact ih (ascending_mergeMember h c.1 c.2)

/-- What a patch does not name stays. -/
theorem get?_mergeMembers_of_not_mem {changes : List (String × Json)} {k : String} (hk : k ∉ changes.map Prod.fst) :
    ∀ target : Assoc String Json, (mergeMembers target changes).get? k = target.get? k := by
  induction changes with
  | nil =>
    intro target
    rw [mergeMembers]
  | cons c changes ih =>
    intro target
    obtain ⟨hc, hk⟩ := not_or.1 (mt List.mem_cons.2 hk)
    rw [mergeMembers_cons, ih hk, get?_mergeMember_of_ne hc]

end Json

namespace Cluster.Object

variable {o o' : Object} {changes : List (String × Json)}

/-- A patch gives an object exactly if it is an object itself, and what its changes make of the members is read. -/
theorem mergePatch_ok_iff {content : Json} : o.mergePatch content = .ok o' ↔
    ∃ changes, content = .obj changes ∧ ofJson? (.obj (Json.mergeMembers o.members changes)) = some o' := by
  have heq : ∀ changes, o.toJson.mergePatch (.obj changes) = .obj (Json.mergeMembers o.members changes) := by
    intro changes
    rw [Json.mergePatch]
    rfl
  unfold mergePatch
  constructor
  · intro h
    split at h
    · rename_i o'' ho
      cases h
      cases content with
      | obj changes => exact ⟨changes, rfl, heq changes ▸ ho⟩
      | _ => cases ho
    · cases h
  · rintro ⟨changes, rfl, ho⟩
    rw [heq, ho]

theorem ascending_patched (o : Object) (changes : List (String × Json)) :
    (Json.mergeMembers o.members changes).Ascending :=
  Json.ascending_mergeMembers changes o.ascending_members

theorem wellFormed_of_patched (h : ofJson? (.obj (Json.mergeMembers o.members changes)) = some o') : o'.WellFormed :=
  wellFormed_of_ofJson? (o.ascending_patched changes) h

end Cluster.Object

end AccessGate
