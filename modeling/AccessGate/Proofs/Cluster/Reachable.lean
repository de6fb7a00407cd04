/-
The clusters that a run of operations leads to, and what holds of all of them. An object is held at a
place if it was published there at some time. Every object that is stored is held where it is stored,
and what is held fits its place and has a resource version that no other object was ever given, so it
is held at one place only (`Sound`, `held_unique`).
-/
import AccessGate.Proofs.Cluster.Effect

namespace AccessGate.Cluster.Store

/-! ## Runs -/

/-- One operation, or one object that is put there without being logged. -/
inductive Step (s : Store) : Store → Prop
  | seed (fresh : Fresh) (r : ApiResource) (o : Object) : Step s (s.seed fresh r o).2
  | perform (fresh : Fresh) (t : Target) (a : Action) : Step s (s.perform fresh t a).2

/-- The clusters that steps lead to from an empty one. -/
inductive Reachable : Store → Prop
  | start (n : Nat) : Reachable (withLogCapacity n)
  | step {s s' : Store} (before : Reachable s) (step : s.Step s') : Reachable s'

/-- Every step has an effect on a cluster that differs at most in its log. -/
theorem Step.effect {s s' : Store} (h : s.Step s') :
    ∃ (t : Target) (name : String) (s₀ : Store) (r : Except Error Product × Store),
      s.SameContent s₀ ∧ Effect t name s₀ r ∧ r.2 = s' := by
  cases h with
  | seed fresh r o => exact ⟨_, _, s, _, ⟨rfl, rfl, rfl⟩, insertNew_effect s fresh _ o, rfl⟩
  | perform fresh t a => exact ⟨_, _, _, _, sameContent_logged s _, perform_effect s fresh t a, rfl⟩

/-! ## What was published -/

/-- Whether an object was published at a place: it is stored there, or it was. -/
def Held (s : Store) (p : Place) (o : Object) : Prop :=
  ∃ c, ⟨c, p, o⟩ ∈ s.events

theorem held_write {s : Store} {c : Change} {p q : Place} {o o' : Object} :
    (s.write c p o).Held q o' ↔ s.Held q o' ∨ q = p ∧ o' = o := by
  unfold Held write
  simp only [List.mem_append, List.mem_singleton, Event.mk.injEq]
  constructor
  · rintro ⟨c', h | ⟨_, hp, ho⟩⟩
    · exact .inl ⟨c', h⟩
    · exact .inr ⟨hp, ho⟩
  · rintro (⟨c', h⟩ | ⟨hp, ho⟩)
    · exact ⟨c', .inl h⟩
    · exact ⟨c, .inr ⟨rfl, hp, ho⟩⟩

/-- Removing publishes nothing that was not held. -/
theorem held_removed {s : Store} {bs : Assoc Place Object} (hb : ∀ b ∈ bs, s.Held b.1 b.2) {q : Place}
    {o : Object} : (bs.foldl remove s).Held q o ↔ s.Held q o := by
  unfold Held
  rw [(foldl_remove bs s).2.1]
  simp only [List.mem_append, List.mem_map, Event.mk.injEq]
  constructor
  · rintro ⟨c, h | ⟨b, hm, _, rfl, rfl⟩⟩
    · exact ⟨c, h⟩
    · exact hb b hm
  · rintro ⟨c, h⟩
    exact ⟨c, .inl h⟩

theorem toString_injective {a b : Nat} (h : toString a = toString b) : a = b := by
  have := congrArg (fun t : String => Nat.ofDigitChars 10 t.toList 0) h
  simpa using this

/-- What holds of every cluster that can be reached. -/
structure Sound (s : Store) : Prop where
  published : ∀ b ∈ s.objects, s.Held b.1 b.2
  fits : ∀ {p o}, s.Held p o → o.FitsAt p
  numbered : ∀ {p o}, s.Held p o →
    ∃ k, 1 ≤ k ∧ k ≤ s.version ∧ o.metadata.resourceVersion = some (toString k)
  single : ∀ {p q o o'}, s.Held p o → s.Held q o' →
    o.metadata.resourceVersion = o'.metadata.resourceVersion → p = q ∧ o = o'

theorem sound_start (n : Nat) : Sound (withLogCapacity n) := by
  have empty : ∀ {p o}, ¬ (withLogCapacity n).Held p o := by
    rintro p o ⟨_, h⟩
    cases h
  exact ⟨fun b hb => (nomatch hb), fun h => absurd h empty, fun h => absurd h empty, fun h => absurd h empty⟩

theorem Sound.sameContent {s s' : Store} (h : s.Sound) (hc : s.SameContent s') : s'.Sound := by
  have hh : ∀ p o, s'.Held p o ↔ s.Held p o := fun p o => by unfold Held; rw [hc.events]
  refine ⟨fun b hb => (hh _ _).2 (h.published b (hc.objects ▸ hb)), fun hp => h.fits ((hh _ _).1 hp), fun hp => ?_,
    fun hp hq => h.single ((hh _ _).1 hp) ((hh _ _).1 hq)⟩
  rw [hc.version]
  exact h.numbered ((hh _ _).1 hp)

/-- No object that is held has the version of the next write. -/
theorem Sound.fresh {s : Store} (h : s.Sound) {p : Place} {o : Object} (hp : s.Held p o) :
    o.metadata.resourceVersion ≠ some s.nextVersion := by
  intro he
  obtain ⟨k, _, hk, hv⟩ := h.numbered hp
  rw [hv] at he
  have := toString_injective (Option.some.inj he)
  omega

theorem Sound.write {s : Store} (h : s.Sound) (c : Change) {p : Place} {o : Object} (fits : o.FitsAt p)
    (version : o.metadata.resourceVersion = some s.nextVersion) : (s.write c p o).Sound := by
  refine ⟨fun b hb => ?_, fun hq => ?_, fun hq => ?_, fun hq hq' hv => ?_⟩
  · rcases Assoc.mem_insert hb with rfl | hb
    · exact held_write.2 (.inr ⟨rfl, rfl⟩)
    · exact held_write.2 (.inl (h.published b hb))
  · rcases held_write.1 hq with hq | ⟨rfl, rfl⟩
    · exact h.fits hq
    · exact fits
  · rcases held_write.1 hq with hq | ⟨rfl, rfl⟩
    · obtain ⟨k, h1, hk, hv⟩ := h.numbered hq
      exact ⟨k, h1, Nat.le_succ_of_le hk, hv⟩
    · exact ⟨s.version + 1, by omega, Nat.le_refl _, version⟩
  · -- a held object and the new one have different versions
    rw [held_write] at hq hq'
    rcases hq with hq | ⟨rfl, rfl⟩ <;> rcases hq' with hq' | ⟨rfl, rfl⟩
    · exact h.single hq hq' hv
    · exact absurd (hv.trans version) (h.fresh hq)
    · exact absurd (hv.symm.trans version) (h.fresh hq')
    · exact ⟨rfl, rfl⟩

theorem Sound.removed {s : Store} (h : s.Sound) {bs : Assoc Place Object} (hb : ∀ b ∈ bs, b ∈ s.objects) :
    (bs.foldl remove s).Sound := by
  have hh : ∀ {p o}, (bs.foldl remove s).Held p o ↔ s.Held p o :=
    held_removed fun b hm => h.published b (hb b hm)
  obtain ⟨hv, _, ho, _⟩ := foldl_remove bs s
  refine ⟨fun b hm => hh.2 (h.published b (ho b hm)), fun hp => h.fits (hh.1 hp), fun hp => ?_,
    fun hp hq => h.single (hh.1 hp) (hh.1 hq)⟩
  rw [hv]
  exact h.numbered (hh.1 hp)

theorem Sound.effect {s : Store} (h : s.Sound) {t : Target} {name : String}
    {r : Except Error Product × Store} (he : Effect t name s r) : r.2.Sound := by
  cases he with
  | failed e => exact h
  | read => exact h
  | added p o _ _ fits version => exact h.write .added fits version
  | modified p old o _ present succeeds version =>
    exact h.write .modified ((h.fits (h.published _ (Assoc.mem_of_get? present))).succeeds succeeds) version
  | removed bs present => exact h.removed fun b hb => (present b hb).1

/-- What was held stays held. -/
theorem Effect.held {s : Store} {t : Target} {name : String} {r : Except Error Product × Store}
    (he : Effect t name s r) {p : Place} {o : Object} (h : s.Held p o) : r.2.Held p o := by
  cases he with
  | failed e => exact h
  | read => exact h
  | added p o => exact held_write.2 (.inl h)
  | modified p old o => exact held_write.2 (.inl h)
  | removed bs =>
    obtain ⟨c, h⟩ := h
    exact ⟨c, by rw [(foldl_remove bs s).2.1]; exact List.mem_append_left _ h⟩

/-- The objects that an answer carries are held at places that the operation reaches. -/
theorem Effect.objects_held {s : Store} (h : s.Sound) {t : Target} {name : String} {x : Product}
    {r : Except Error Product × Store} (he : Effect t name s r) (hx : r.1 = .ok x) :
    ∀ o ∈ x.objects, ∃ p, t.Reaches name p ∧ r.2.Held p o := by
  intro o ho
  cases he with
  | failed e => cases hx
  | read a stored =>
    cases hx
    obtain ⟨p, hp, hs⟩ := stored o ho
    exact ⟨p, hp, h.published _ hs⟩
  | added p o' reached =>
    cases hx
    rw [List.mem_singleton.1 ho]
    exact ⟨p, reached, held_write.2 (.inr ⟨rfl, rfl⟩)⟩
  | modified p old o' reached =>
    cases hx
    rw [List.mem_singleton.1 ho]
    exact ⟨p, reached, held_write.2 (.inr ⟨rfl, rfl⟩)⟩
  | removed bs => cases hx; cases ho

/-! ## Whole runs -/

theorem Sound.logged {s : Store} (h : s.Sound) (entry : String) : (s.logged entry).Sound :=
  h.sameContent (sameContent_logged s entry)

theorem Sound.step {s s' : Store} (h : s.Sound) (hs : s.Step s') : s'.Sound := by
  obtain ⟨t, name, s₀, r, hc, heff, rfl⟩ := hs.effect
  exact (h.sameContent hc).effect heff

theorem Step.held {s s' : Store} (hs : s.Step s') {p : Place} {o : Object} (h : s.Held p o) : s'.Held p o := by
  obtain ⟨t, name, s₀, r, hc, heff, rfl⟩ := hs.effect
  exact heff.held (by unfold Held; rw [hc.events]; exact h)

theorem Reachable.sound {s : Store} (h : s.Reachable) : s.Sound := by
  induction h with
  | start n => exact sound_start n
  | step _ hs ih => exact ih.step hs

/-- An object is only ever held at one place. -/
theorem Sound.held_unique {s : Store} (h : s.Sound) {p q : Place} {o : Object} (hp : s.Held p o)
    (hq : s.Held q o) : p = q :=
  (h.single hp hq rfl).1

end AccessGate.Cluster.Store
