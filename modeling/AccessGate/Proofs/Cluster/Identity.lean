/-
What a stored object is known by. The name and the namespace are those of its place, and it has an identifier
and a version. Main statement: this holds of every object in a cluster that can be reached, no two of them have
the same version, and as long as an object is there, through any number of steps, its name, its namespace and
its identifier stay (`stored_identity`).
-/
import AccessGate.Proofs.Cluster.Call

namespace AccessGate.Cluster

theorem Object.Succeeds.refl (o : Object) : o.Succeeds o :=
  ⟨rfl, rfl, rfl⟩

theorem Object.Succeeds.trans {o o' o'' : Object} (h' : o''.Succeeds o') (h : o'.Succeeds o) : o''.Succeeds o :=
  ⟨h'.name.trans h.name, h'.ns.trans h.ns, h'.uid.trans h.uid⟩

namespace Store

variable {s s' s'' : Store} {p q : Place} {o o' : Object}

theorem get?_remove (s : Store) (b : Place × Object) (q : Place) :
    (s.remove b).objects.get? q = if q = b.1 then none else s.objects.get? q := by
  show (s.objects.erase b.1).get? q = _
  split
  · rename_i h
    rw [h, Assoc.get?_erase_self]
  · rename_i h
    exact Assoc.get?_erase_of_ne h s.objects

/-- An object that is there after removals is the one that was there before. -/
theorem get?_of_removed (bs : Assoc Place Object) : ∀ s : Store,
    (bs.foldl remove s).objects.get? q = some o → s.objects.get? q = some o := by
  induction bs with
  | nil => exact fun _ h => h
  | cons b bs ih =>
    intro s h
    have h := ih (s.remove b) h
    rw [get?_remove] at h
    split at h
    · cases h
    · exact h

/-- The object that is at a place after an effect succeeds the one that was there before. -/
theorem Effect.succeeds {t : Target} {name : String} {r : Except Error Product × Store} (h : Effect t name s r)
    (before : s.objects.get? q = some o) (after : r.2.objects.get? q = some o') : o'.Succeeds o := by
  have same : s.objects.get? q = some o' → o'.Succeeds o := by
    intro h'
    cases before.symm.trans h'
    exact .refl o
  cases h with
  | failed e => exact same after
  | read => exact same after
  | added p o₁ _ absent =>
    by_cases hq : q = p
    · rw [hq, absent] at before
      cases before
    · exact same (get?_write_of_ne s .added o₁ hq ▸ after)
  | modified p old o₁ _ present succeeds =>
    by_cases hq : q = p
    · subst hq
      have after : (s.objects.insert q o₁).get? q = some o' := after
      rw [Assoc.get?_insert_self] at after
      cases after
      cases before.symm.trans present
      exact succeeds
    · exact same (get?_write_of_ne s .modified o₁ hq ▸ after)
  | removed bs => exact same (get?_of_removed bs s after)

theorem Step.succeeds (h : s.Step s') (before : s.objects.get? q = some o) (after : s'.objects.get? q = some o') :
    o'.Succeeds o := by
  obtain ⟨t, name, s₀, r, hc, heff, rfl⟩ := h.effect
  exact heff.succeeds (hc.objects ▸ before) after

/-- Whether steps lead from one cluster to another, and an object is at a place all the while. -/
inductive Lives (p : Place) (s : Store) : Store → Prop
  | here (present : s.objects.has p = true) : Lives p s s
  | step {s' s'' : Store} (before : Lives p s s') (step : s'.Step s'') (present : s''.objects.has p = true) :
      Lives p s s''

theorem Lives.present (h : Lives p s s') : s'.objects.has p = true := by
  cases h with
  | here present => exact present
  | step _ _ present => exact present

/-- By induction on the steps: each one lets the object at a place be succeeded by one of the same identity. -/
theorem Lives.succeeds (h : Lives p s s') (before : s.objects.get? p = some o) :
    ∀ {o' : Object}, s'.objects.get? p = some o' → o'.Succeeds o := by
  induction h with
  | here =>
    intro o' after
    cases before.symm.trans after
    exact .refl o
  | step h step _ ih =>
    intro o'' after
    obtain ⟨o', between⟩ := Option.isSome_iff_exists.1 h.present
    exact (step.succeeds between after).trans (ih between)

theorem Reachable.held (h : s.Reachable) (hp : s.objects.get? p = some o) : s.Held p o :=
  h.sound.published _ (Assoc.mem_of_get? hp)

/-- In every cluster that can be reached, each stored object has the name and namespace of its place, the name not
empty, an identifier, and a version that is one of those given so far; no two stored objects have the same version;
and whatever is done to it, an object keeps its name, namespace and identifier as long as it is there. -/
theorem stored_identity (h : s.Reachable) :
    (∀ p o, s.objects.get? p = some o →
      p.name ≠ "" ∧ o.metadata.name = some p.name ∧
      o.metadata.ns = (if p.ns = "" then none else some p.ns) ∧ (∃ uid, o.metadata.uid = some uid) ∧
      ∃ k, 1 ≤ k ∧ k ≤ s.version ∧ o.metadata.resourceVersion = some (toString k)) ∧
    (∀ p q o o', s.objects.get? p = some o → s.objects.get? q = some o' →
      o.metadata.resourceVersion = o'.metadata.resourceVersion → p = q) ∧
    ∀ s' p o o', Lives p s s' → s.objects.get? p = some o → s'.objects.get? p = some o' →
      o'.metadata.name = o.metadata.name ∧ o'.metadata.ns = o.metadata.ns ∧ o'.metadata.uid = o.metadata.uid := by
  refine ⟨fun p o hp => ?_, fun p q o o' hp hq hv => ?_, fun s' p o o' hl hp hp' => ?_⟩
  · have fits := h.sound.fits (h.held hp)
    exact ⟨fits.named, fits.name, fits.ns, Option.isSome_iff_exists.1 fits.uid, h.sound.numbered (h.held hp)⟩
  · exact (h.sound.single (h.held hp) (h.held hq) hv).1
  · have succeeds := hl.succeeds hp hp'
    exact ⟨succeeds.name, succeeds.ns, succeeds.uid⟩

/-- A stage stays the same one although a patch asks for another name, another namespace and no identifier. -/
theorem patched_stage_identity :
    let place : Place := ⟨stages.group, "stages", "demo", "test"⟩
    let patch : Action := .patch "test" ⟨.merge, .obj [("metadata", .obj
      [("name", .str "other"), ("namespace", .str "elsewhere"), ("uid", .null)])]⟩
    oneStage.Reachable ∧ ∃ o', (oneStage.perform ⟨"u2", ""⟩ ⟨stages, "demo"⟩ patch).2.objects.get? place = some o' ∧
      o'.metadata.name = some "test" ∧ o'.metadata.ns = some "demo" ∧ o'.metadata.uid = some "u1" := by
  intro place patch
  have hs : oneStage.Reachable := .step (.start 2) (.seed ..)
  have hl : Lives place oneStage (oneStage.perform ⟨"u2", ""⟩ ⟨stages, "demo"⟩ patch).2 :=
    .step (.here (by decide)) (.perform ..) (by decide)
  obtain ⟨o', ho'⟩ := Option.isSome_iff_exists.1 hl.present
  exact ⟨hs, o', ho', (stored_identity hs).2.2 _ place _ o' hl rfl ho'⟩

end Store

end AccessGate.Cluster
