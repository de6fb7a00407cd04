/-
Merge patches of documents. A patch whose changes ascend gives a document whose members are told one by one
(`get?_mergeMembers`). Each change leaves its member behind smaller keys only, where the changes after it do not reach
(`Made`), so a patch that is applied twice does no more than once, whatever it is applied to
(`mergePatch_mergePatch`).
-/
import AccessGate.Proofs.Cluster.Patch
import AccessGate.Proofs.Json.Ordered

namespace AccessGate

namespace Assoc

/-! ## Bindings behind smaller keys -/

variable {κ α : Type} [Ord κ]

/-- Whether a key is bound to a value and stands behind smaller keys only. -/
def Places (m : Assoc κ α) (k : κ) (v : α) : Prop :=
  ∃ before after, m = before ++ (k, v) :: after ∧ ∀ b ∈ before, compare b.1 k = .lt

variable {m : Assoc κ α} {k k' : κ} {v : α}

section Order

variable [Std.TransOrd κ]

theorem places_insert (k : κ) (v : α) : ∀ m : Assoc κ α, (m.insert k v).Places k v
  | [] => ⟨[], [], rfl, List.forall_mem_nil _⟩
  | (k', v') :: m => by
    obtain ⟨before, after, heq, hbefore⟩ := places_insert k v m
    unfold insert
    split
    · exact ⟨[], _, rfl, List.forall_mem_nil _⟩
    · exact ⟨[], _, rfl, List.forall_mem_nil _⟩
    · -- the first key is smaller, so it stands before the one that is inserted
      rename_i hk
      exact ⟨(k', v') :: before, after, by rw [heq]; rfl,
        List.forall_mem_cons.2 ⟨Std.OrientedCmp.gt_iff_lt.1 hk, hbefore⟩⟩

theorem insert_cons_of_lt {b : κ × α} (h : compare b.1 k = .lt) (v : α) (m : Assoc κ α) :
    Assoc.insert (b :: m) k v = b :: m.insert k v := by
  rw [insert, Std.OrientedCmp.gt_iff_lt.2 h]

theorem insert_append {before : Assoc κ α} (h : ∀ b ∈ before, compare b.1 k = .lt) (v : α) (m : Assoc κ α) :
    Assoc.insert (before ++ m) k v = before ++ m.insert k v := by
  induction before with
  | nil => rfl
  | cons b before ih =>
    obtain ⟨hb, hbefore⟩ := List.forall_mem_cons.1 h
    rw [List.cons_append, insert_cons_of_lt hb, ih hbefore, List.cons_append]

/-- What stands behind smaller keys only is found by those who insert it again. -/
theorem Places.insert_eq (h : m.Places k v) : m.insert k v = m := by
  obtain ⟨before, after, rfl, hbefore⟩ := h
  rw [insert_append hbefore, insert, Std.ReflOrd.compare_self]

theorem Places.insert_of_lt (h : m.Places k v) (hlt : compare k k' = .lt) (v' : α) : (m.insert k' v').Places k v := by
  obtain ⟨before, after, rfl, hbefore⟩ := h
  refine ⟨before, Assoc.insert after k' v', ?_, hbefore⟩
  rw [insert_append fun b hb => Std.TransCmp.lt_trans (hbefore b hb) hlt, insert_cons_of_lt hlt]

end Order

variable [DecidableEq κ]

theorem Places.get?_eq [Std.LawfulEqOrd κ] (h : m.Places k v) : m.get? k = some v := by
  obtain ⟨before, after, rfl, hbefore⟩ := h
  have hnone : before.get? k = none := by
    refine get?_eq_none_iff.2 fun hk => ?_
    obtain ⟨b, hb, rfl⟩ := List.mem_map.1 hk
    have hlt := hbefore b hb
    rw [Std.ReflOrd.compare_self] at hlt
    cases hlt
  rw [get?_append, hnone, get?_cons, if_pos rfl]
  rfl

theorem Places.erase_of_ne (h : m.Places k v) (hne : k ≠ k') : (m.erase k').Places k v := by
  obtain ⟨before, after, rfl, hbefore⟩ := h
  refine ⟨Assoc.erase before k', Assoc.erase after k', ?_, fun b hb => hbefore b (mem_erase hb)⟩
  unfold erase
  rw [List.filter_append, List.filter_cons, if_pos (decide_eq_true hne)]

end Assoc

namespace Json

variable {m : Assoc String Json} {k k' : String} {v v' : Json}

/-! ## Members -/

theorem mergeMember_of_ne_null (h : v ≠ .null) (m : Assoc String Json) (k : String) :
    mergeMember m k v = m.insert k (mergePatch ((m.get? k).getD .null) v) := by
  cases v with
  | null => exact absurd rfl h
  | _ => rfl

/-- A member after a merge patch, from what it was and what the patch has for it. -/
def mergedMember (old : Option Json) : Option Json → Option Json
  | none => old
  | some .null => none
  | some v => some (mergePatch (old.getD .null) v)

/-- A patch has nothing for a member, or null, or something to merge into it. -/
theorem change_cases (c : Option Json) : c = none ∨ c = some .null ∨ ∃ v, v ≠ .null ∧ c = some v := by
  cases c with
  | none => exact .inl rfl
  | some v =>
    by_cases hv : v = .null
    · exact .inr (.inl (congrArg some hv))
    · exact .inr (.inr ⟨v, hv, rfl⟩)

theorem mergedMember_of_ne_null (h : v ≠ .null) (old : Option Json) :
    mergedMember old (some v) = some (mergePatch (old.getD .null) v) := by
  cases v with
  | null => exact absurd rfl h
  | _ => rfl

theorem get?_mergeMember_self (m : Assoc String Json) (k : String) (v : Json) :
    (mergeMember m k v).get? k = mergedMember (m.get? k) (some v) := by
  by_cases hv : v = .null
  · subst hv
    exact Assoc.get?_erase_self k m
  · rw [mergeMember_of_ne_null hv, Assoc.get?_insert_self, mergedMember_of_ne_null hv]

/-- The members after a merge patch, one by one: no other change of an ascending patch is about the same member. -/
theorem get?_mergeMembers {changes : Assoc String Json} (h : changes.Ascending) (k : String) :
    ∀ m : Assoc String Json, (mergeMembers m changes).get? k = mergedMember (m.get? k) (changes.get? k) := by
  induction changes with
  | nil =>
    intro m
    rw [mergeMembers]
    rfl
  | cons c changes ih =>
    intro m
    rw [mergeMembers_cons, Assoc.get?_cons]
    split
    · rename_i hk
      subst hk
      rw [get?_mergeMembers_of_not_mem (Assoc.get?_eq_none_iff.1 h.get?_tail), get?_mergeMember_self]
    · rename_i hk
      rw [ih (List.pairwise_cons.1 h).2, get?_mergeMember_of_ne hk]

theorem Ordered.changes {changes : Assoc String Json} (h : Ordered (.obj changes)) :
    changes.Ascending ∧ ∀ k, ∀ v ∈ changes.get? k, v.Ordered := by
  refine ⟨?_, fun k v hv => h.get? hv⟩
  cases h with
  | obj hasc _ => exact hasc

/-! ## Changes that were made -/

/-- Whether a change would change nothing: the member is not there, or it stands behind smaller keys only and is what
the change makes of it. -/
def Made (m : Assoc String Json) (k : String) (v : Json) : Prop :=
  v = .null ∧ m.get? k = none ∨ v ≠ .null ∧ ∃ x, m.Places k x ∧ mergePatch x v = x

theorem Made.mergeMember_eq (h : Made m k v) : mergeMember m k v = m := by
  rcases h with ⟨rfl, hnone⟩ | ⟨hv, x, hplaces, hx⟩
  · exact Assoc.erase_eq_self hnone
  · rw [mergeMember_of_ne_null hv, hplaces.get?_eq, Option.getD_some, hx, hplaces.insert_eq]

theorem made_mergeMember (again : ∀ t, mergePatch (mergePatch t v) v = mergePatch t v) (m : Assoc String Json)
    (k : String) : Made (mergeMember m k v) k v := by
  by_cases hv : v = .null
  · subst hv
    exact .inl ⟨rfl, Assoc.get?_erase_self k m⟩
  · rw [mergeMember_of_ne_null hv]
    exact .inr ⟨hv, _, Assoc.places_insert .., again _⟩

/-- A change stays made if one of a greater key is. -/
theorem Made.mergeMember (h : Made m k v) (hlt : compare k k' = .lt) (v' : Json) : Made (mergeMember m k' v') k v := by
  have hne : k ≠ k' := by
    rintro rfl
    rw [Std.ReflOrd.compare_self] at hlt
    cases hlt
  rcases h with ⟨hv, hnone⟩ | ⟨hv, x, hplaces, hx⟩
  · exact .inl ⟨hv, (get?_mergeMember_of_ne hne m v').trans hnone⟩
  · refine .inr ⟨hv, x, ?_, hx⟩
    by_cases hv' : v' = .null
    · subst hv'
      exact hplaces.erase_of_ne hne
    · rw [mergeMember_of_ne_null hv']
      exact hplaces.insert_of_lt hlt _

theorem Made.mergeMembers {changes : Assoc String Json} (h : ∀ c ∈ changes, compare k c.1 = .lt) :
    ∀ {m : Assoc String Json}, Made m k v → Made (mergeMembers m changes) k v := by
  induction changes with
  | nil =>
    intro m hm
    rwa [Json.mergeMembers]
  | cons c changes ih =>
    intro m hm
    obtain ⟨hc, hchanges⟩ := List.forall_mem_cons.1 h
    rw [mergeMembers_cons]
    exact ih hchanges (hm.mergeMember hc c.2)

/-- After an ascending patch all its changes are made. -/
theorem made_mergeMembers {changes : Assoc String Json} (h : changes.Ascending)
    (again : ∀ c ∈ changes, ∀ t, mergePatch (mergePatch t c.2) c.2 = mergePatch t c.2) :
    ∀ m : Assoc String Json, ∀ c ∈ changes, Made (mergeMembers m changes) c.1 c.2 := by
  induction changes with
  | nil => exact fun _ => List.forall_mem_nil _
  | cons c changes ih =>
    intro m
    obtain ⟨hlt, hasc⟩ := List.pairwise_cons.1 h
    obtain ⟨hc, hchanges⟩ := List.forall_mem_cons.1 again
    rw [mergeMembers_cons]
    -- the first change stays made, since those after it are of greater keys
    exact List.forall_mem_cons.2 ⟨(made_mergeMember hc m c.1).mergeMembers hlt, ih hasc hchanges _⟩

/-- A patch whose changes are made changes nothing. -/
theorem mergeMembers_eq_self {changes : List (String × Json)} (h : ∀ c ∈ changes, Made m c.1 c.2) :
    mergeMembers m changes = m := by
  induction changes with
  | nil => rw [mergeMembers]
  | cons c changes ih =>
    obtain ⟨hc, hchanges⟩ := List.forall_mem_cons.1 h
    rw [mergeMembers_cons, hc.mergeMember_eq, ih hchanges]

/-! ## Patches applied twice -/

theorem mergePatch_obj (t : Json) (changes : Assoc String Json) :
    t.mergePatch (.obj changes) = .obj (mergeMembers (t.asFields?.getD []) changes) := by
  rw [mergePatch]

theorem isObject_iff {j : Json} : j.isObject = true ↔ ∃ fields, j = .obj fields := by
  cases j <;> simp [isObject]

/-- What stands in a document after a patch, if the patch is an object. -/
theorem get?_mergePatch {p : Json} (hp : p.Ordered) (h : p.isObject = true) (t : Json) (k : String) :
    (t.mergePatch p).get? k = mergedMember (t.get? k) (p.get? k) := by
  obtain ⟨changes, rfl⟩ := isObject_iff.1 h
  rw [mergePatch_obj]
  show (mergeMembers (t.asFields?.getD []) changes).get? k = _
  rw [get?_mergeMembers hp.changes.1]
  cases t <;> rfl

theorem mergePatch_of_not_isObject {p : Json} (h : p.isObject = false) (t : Json) : t.mergePatch p = p := by
  cases p with
  | obj fields => cases h
  | _ => rw [mergePatch]; simp

/-- A patch that is applied twice does no more than once. By induction on the patch, for all documents. -/
theorem mergePatch_mergePatch {p : Json} (hp : p.Ordered) :
    ∀ t : Json, (t.mergePatch p).mergePatch p = t.mergePatch p := by
  induction hp with
  | @obj changes hasc _ ih =>
    intro t
    rw [mergePatch_obj, mergePatch_obj]
    exact congrArg obj (mergeMembers_eq_self (made_mergeMembers hasc ih _))
  | _ =>
    intro t
    rw [mergePatch_of_not_isObject rfl, mergePatch_of_not_isObject rfl t]

theorem mergedMember_mergedMember {c : Option Json} (hc : ∀ v ∈ c, v.Ordered) (old : Option Json) :
    mergedMember (mergedMember old c) c = mergedMember old c := by
  rcases change_cases c with rfl | rfl | ⟨v, hv, rfl⟩
  · rfl
  · rfl
  · rw [mergedMember_of_ne_null hv, mergedMember_of_ne_null hv, Option.getD_some, mergePatch_mergePatch (hc v rfl)]

end Json

end AccessGate
