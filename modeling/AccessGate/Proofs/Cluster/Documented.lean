/-
What successful writes store, and the clusters whose objects were given as documents. A write stores its body, or
what a patch makes of the old document, in the place of the old object (`replace_eq_ok` and the others). So if every
object that is sent can have been read from a document, every object that is stored can (`Documented.wellFormed`).
-/
import AccessGate.Proofs.Cluster.Call
import AccessGate.Proofs.Cluster.Patch

namespace AccessGate.Cluster

/-! ## What a change stores -/

namespace Object

/-- An object as it is stored in the place of another one. -/
def inPlaceOf (new old : Object) (version : String) : Object :=
  { new with
    types := old.types.or new.types
    metadata := { new.metadata with
      name := old.metadata.name
      ns := old.metadata.ns
      uid := old.metadata.uid
      resourceVersion := some version } }

/-- Whether an object is well-formed does not depend on the metadata that the cluster looks at. -/
theorem WellFormed.of_eq {o o' : Object} (h : o.WellFormed) (others : o'.metadata.others = o.metadata.others)
    (data : o'.data = o.data) : o'.WellFormed := by
  obtain ⟨⟨shaped, own⟩, ascending, plain⟩ := h
  rw [← others] at shaped own
  rw [← data] at ascending plain
  exact ⟨⟨shaped, own⟩, ascending, plain⟩

theorem WellFormed.inPlaceOf {new : Object} (h : new.WellFormed) (old : Object) (version : String) :
    (new.inPlaceOf old version).WellFormed :=
  h.of_eq rfl rfl

theorem data_withStatus_of_ne (o : Object) (status : Option Json) {k : String} (h : k ≠ "status") :
    (o.withStatus status).data.get? k = o.data.get? k := by
  cases status with
  | none => exact Assoc.get?_erase_of_ne h o.data
  | some j => exact Assoc.get?_insert_of_ne h j o.data

theorem status_withStatus (o : Object) (status : Option Json) : (o.withStatus status).status = status := by
  cases status with
  | none => exact Assoc.get?_erase_self "status" o.data
  | some j => exact Assoc.get?_insert_self "status" j o.data

theorem types_withStatus (o : Object) (status : Option Json) : (o.withStatus status).types = o.types := by
  cases status <;> rfl

theorem metadata_withStatus (o : Object) (status : Option Json) : (o.withStatus status).metadata = o.metadata := by
  cases status <;> rfl

theorem WellFormed.withStatus {o : Object} (h : o.WellFormed) (status : Option Json) :
    (o.withStatus status).WellFormed := by
  refine ⟨?_, ?_, ?_⟩
  · rw [metadata_withStatus]
    exact h.metadata
  · cases status with
    | none => exact h.ascending.erase "status"
    | some j => exact h.ascending.insert "status" j
  · rw [data_withStatus_of_ne o status (by decide)]
    exact h.plain

/-- Whether writes keep a property of objects: it depends only on what the cluster does not look at, does not mind
another status, and holds of what is read after a patch. -/
structure KeptByWrites (P : Object → Prop) : Prop where
  of_eq : ∀ {o o' : Object}, P o → o'.metadata.others = o.metadata.others → o'.data = o.data → P o'
  withStatus : ∀ {o : Object}, P o → ∀ status, P (o.withStatus status)
  patched : ∀ {o o' : Object} {changes : List (String × Json)},
    ofJson? (.obj (Json.mergeMembers o.members changes)) = some o' → P o'

theorem keptByWrites_wellFormed : KeptByWrites WellFormed :=
  ⟨WellFormed.of_eq, WellFormed.withStatus, wellFormed_of_patched⟩

end Object

namespace Store

variable {s : Store} {t : Target} {name : String} {o : Object}

/-- A change that succeeds stores what it gives. -/
theorem modify_eq_ok {update : Object → Except Error Object} (h : (s.modify t name update).1 = .ok o) :
    (s.modify t name update).2.objects.get? (t.place name) = some o ∧
      ∃ old new, s.objects.get? (t.place name) = some old ∧ update old = .ok new ∧
        o = new.inPlaceOf old s.nextVersion := by
  cases hold : s.objects.get? (t.place name) with
  | none =>
    simp only [modify, hold] at h
    cases h
  | some old =>
    cases hnew : update old with
    | error e =>
      simp only [modify, hold, hnew] at h
      cases h
    | ok new =>
      simp only [modify, hold, hnew] at h ⊢
      cases h
      exact ⟨Assoc.get?_insert_self .., old, new, rfl, hnew, rfl⟩

theorem insertNew_eq_ok {fresh : Fresh} {body : Object} (h : (s.insertNew fresh t body).1 = .ok o) :
    o.metadata.others = body.metadata.others ∧ o.data = body.data := by
  unfold insertNew at h
  split at h
  · cases h
  · split at h
    · cases h
    · simp only at h
      split at h
      · cases h
      · cases h
        exact ⟨rfl, rfl⟩

/-- A write of an object stores the body with the status that was there. -/
theorem replace_eq_ok {body : Object} (h : (s.replace t name body).1 = .ok o) :
    (s.replace t name body).2.objects.get? (t.place name) = some o ∧
      ∃ old version, s.objects.get? (t.place name) = some old ∧
        o = (body.withStatus old.status).inPlaceOf old version := by
  cases hname : checkName name body.metadata with
  | error e =>
    simp only [replace, hname] at h
    cases h
  | ok =>
    simp only [replace, hname] at h ⊢
    obtain ⟨hstored, old, new, hold, ⟨⟩, ho⟩ := modify_eq_ok h
    rw [logged_objects] at hold
    exact ⟨hstored, old, _, hold, ho⟩

/-- A patch of an object stores what its changes, without those of the status, make of the document. -/
theorem patch_eq_ok {p : Patch} (h : (s.patch t name p).1 = .ok o) :
    (s.patch t name p).2.objects.get? (t.place name) = some o ∧
      ∃ old new version changes, s.objects.get? (t.place name) = some old ∧ "status" ∉ changes.map Prod.fst ∧
        Object.ofJson? (.obj (Json.mergeMembers old.members changes)) = some new ∧ o = new.inPlaceOf old version := by
  cases hcontent : p.mergeContent with
  | error e =>
    simp only [patch, hcontent] at h
    cases h
  | ok content =>
    simp only [patch, hcontent] at h ⊢
    obtain ⟨hstored, old, new, hold, hnew, ho⟩ := modify_eq_ok h
    obtain ⟨changes, hchanges, hread⟩ := Object.mergePatch_ok_iff.1 hnew
    rw [logged_objects] at hold
    refine ⟨hstored, old, new, _, changes, hold, ?_, hread, ho⟩
    cases content with
    | obj fields =>
      cases hchanges
      exact Assoc.get?_eq_none_iff.1 (Assoc.get?_erase_self "status" fields)
    | _ => cases hchanges

/-- A write of the status stores the old object with the status of the body. -/
theorem replaceSubresource_eq_ok {sub : String} {body : Object}
    (h : (s.replaceSubresource t sub name body).1 = .ok o) :
    (s.replaceSubresource t sub name body).2.objects.get? (t.place name) = some o ∧
      ∃ old version, s.objects.get? (t.place name) = some old ∧
        o = (old.withStatus body.status).inPlaceOf old version := by
  cases hsub : checkStatus sub with
  | error e =>
    simp only [replaceSubresource, hsub] at h
    cases h
  | ok =>
    simp only [replaceSubresource, hsub] at h ⊢
    obtain ⟨hstored, old, new, hold, ⟨⟩, ho⟩ := modify_eq_ok h
    rw [logged_objects] at hold
    exact ⟨hstored, old, _, hold, ho⟩

/-- A patch of the status stores what its changes of the status make of the document. -/
theorem patchSubresource_eq_ok {sub : String} {p : Patch} (h : (s.patchSubresource t sub name p).1 = .ok o) :
    (s.patchSubresource t sub name p).2.objects.get? (t.place name) = some o ∧
      ∃ old new version changes, s.objects.get? (t.place name) = some old ∧
        (∀ k ∈ changes.map Prod.fst, k = "status") ∧
        Object.ofJson? (.obj (Json.mergeMembers old.members changes)) = some new ∧ o = new.inPlaceOf old version := by
  cases hsub : checkStatus sub with
  | error e =>
    simp only [patchSubresource, hsub] at h
    cases h
  | ok =>
    cases hcontent : p.mergeContent with
    | error e =>
      simp only [patchSubresource, hsub, hcontent] at h
      cases h
    | ok content =>
      simp only [patchSubresource, hsub, hcontent] at h ⊢
      obtain ⟨hstored, old, new, hold, hnew, ho⟩ := modify_eq_ok h
      obtain ⟨changes, hchanges, hread⟩ := Object.mergePatch_ok_iff.1 hnew
      rw [logged_objects] at hold
      refine ⟨hstored, old, new, _, changes, hold, ?_, hread, ho⟩
      unfold Patch.onlyStatus at hchanges
      split at hchanges
      · cases hchanges
        simp
      · cases hchanges
        simp

/-! ## Clusters whose objects were given as documents -/

end Store

/-- The object that is sent with a call, if there is one. -/
def Call.body? : Call → Option Object
  | .seed _ o => some o
  | .operation _ a =>
    match a with
    | .create o | .replace _ o | .replaceSub _ _ o => some o
    | .get _ | .list _ | .patch .. | .delete _ | .deleteCollection _ | .watch .. | .getSub .. | .createSub ..
    | .patchSub .. => none

namespace Store

/-- The clusters that calls lead to from an empty one, if every object that is sent can have been read from a
document. -/
inductive Documented : Store → Prop
  | start (n : Nat) : Documented (withLogCapacity n)
  | call {s : Store} (before : s.Documented) (fresh : Fresh) (x : Call) (readable : ∀ o ∈ x.body?, o.WellFormed) :
      Documented (s.answer fresh x).2

variable {s : Store} {t : Target} {name : String} {o : Object}

theorem mem_of_find (ho : s.find t name = .ok o) : ∃ p, (p, o) ∈ s.objects := by
  unfold find at ho
  split at ho
  · rename_i hget
    cases ho
    exact ⟨_, Assoc.mem_of_get? hget⟩
  · cases ho

theorem eq_ok_of_produce {r : Except Error Object × Store} (h : (produce .object r).1 = .ok (.object o)) :
    r.1 = .ok o := by
  obtain ⟨_ | o', s⟩ := r
  · cases h
  · cases h
    rfl

section Kept

variable {P : Object → Prop} (kept : Object.KeptByWrites P)
include kept

/-- The object that a call gives has a property that writes keep, if the stored ones have it and the one that is
sent. -/
theorem kept_of_answer (h : ∀ b ∈ s.objects, P b.2) (fresh : Fresh) {x : Call} (hx : ∀ o ∈ x.body?, P o)
    (ho : (s.answer fresh x).1 = .ok (.object o)) : P o := by
  have found : ∀ {entry t name}, (s.logged entry).find t name = .ok o → P o := by
    intro entry t name hfind
    obtain ⟨p, hp⟩ := mem_of_find hfind
    rw [logged_objects] at hp
    exact h _ hp
  rcases x with ⟨r, body⟩ | ⟨t, a⟩
  · obtain ⟨hothers, hdata⟩ := insertNew_eq_ok (eq_ok_of_produce ho)
    exact kept.of_eq (hx body rfl) hothers hdata
  · cases a with
    | create body =>
      obtain ⟨hothers, hdata⟩ := insertNew_eq_ok (eq_ok_of_produce ho)
      exact kept.of_eq (hx body rfl) hothers hdata
    | get name => exact found (eq_ok_of_produce ho)
    | getSub sub name =>
      have hfind := eq_ok_of_produce ho
      unfold getSubresource at hfind
      simp only at hfind
      split at hfind
      · cases hfind
      · exact found hfind
    | replace name body =>
      obtain ⟨-, old, version, -, rfl⟩ := replace_eq_ok (eq_ok_of_produce ho)
      exact kept.of_eq (kept.withStatus (hx body rfl) _) rfl rfl
    | patch name p =>
      obtain ⟨-, old, new, version, changes, -, -, hread, rfl⟩ := patch_eq_ok (eq_ok_of_produce ho)
      exact kept.of_eq (kept.patched hread) rfl rfl
    | replaceSub sub name body =>
      obtain ⟨-, old, version, hold, rfl⟩ := replaceSubresource_eq_ok (eq_ok_of_produce ho)
      exact kept.of_eq (kept.withStatus (h _ (Assoc.mem_of_get? hold)) _) rfl rfl
    | patchSub sub name p =>
      obtain ⟨-, old, new, version, changes, -, -, hread, rfl⟩ := patchSubresource_eq_ok (eq_ok_of_produce ho)
      exact kept.of_eq (kept.patched hread) rfl rfl
    | list | delete | deleteCollection | watch | createSub =>
      obtain ⟨y, hy⟩ := exists_of_produce_ok ho
      cases hy

/-- One call leaves the property to all objects: those that it does not store were there before. -/
theorem kept_answer (h : ∀ b ∈ s.objects, P b.2) (fresh : Fresh) {x : Call} (hx : ∀ o ∈ x.body?, P o) :
    ∀ b ∈ (s.answer fresh x).2.objects, P b.2 := by
  have hgiven := fun o => kept_of_answer (o := o) kept h fresh hx
  rw [← (sameContent_recorded s x).objects] at h
  have heff := answer_effect s fresh x
  generalize s.answer fresh x = r at *
  cases heff with
  | failed e => exact h
  | read => exact h
  | added p o | modified p old o =>
    intro b hb
    rcases Assoc.mem_insert hb with rfl | hb
    · exact hgiven o rfl
    · exact h b hb
  | removed bs => exact fun b hb => h b ((foldl_remove bs _).2.2.1 b hb)

end Kept

theorem Documented.wellFormed (h : s.Documented) : ∀ b ∈ s.objects, b.2.WellFormed := by
  induction h with
  | start n => exact fun b hb => nomatch hb
  | call _ fresh x hx ih => exact kept_answer Object.keptByWrites_wellFormed ih fresh hx

end Store

end AccessGate.Cluster
