/-
What the version of a cluster tells. It counts the changes that store an object, so it stays as it is exactly while
objects are only deleted; the objects are then those from before but for the deleted ones
(`Publishes.objects_of_deletes`).
Main statement: two lists of a collection report the same version exactly if objects were only deleted meanwhile, and
then give the same exactly if none of the deleted ones is of the collection and picked (`listed_version_iff`).
-/
import AccessGate.Proofs.Cluster.Delivery

namespace AccessGate.Cluster

theorem Event.isWrite_eq_false_iff {e : Event} : e.isWrite = false ↔ e.change = .deleted := by
  unfold isWrite stored?
  cases e.change <;> simp

namespace Store

variable {s s' : Store} {t : Target} {e : Event} {es : List Event} {b : Place × Object}

/-- The version stays exactly if nothing but deletions happens. -/
theorem Publishes.version_eq_iff (h : s.Publishes es s') :
    s'.version = s.version ↔ ∀ e ∈ es, e.change = .deleted := by
  rw [h.version, Nat.add_eq_left, List.countP_eq_zero]
  simp only [Bool.not_eq_true, Event.isWrite_eq_false_iff]

/-- A stored object is at its place alone, and at no other one. -/
theorem Sound.at_place_iff (h : s.Sound) (hasc : s.objects.Ascending) {p : Place} {o : Object}
    (ho : s.objects.get? p = some o) (hb : b ∈ s.objects) : b.1 = p ↔ b.2 = o := by
  constructor
  · intro hp
    have hget : s.objects.get? b.1 = some b.2 := hasc.get?_of_mem hb
    rw [hp, ho] at hget
    exact (Option.some.inj hget).symm
  · intro heq
    have hheld := h.published _ (Assoc.mem_of_get? ho)
    exact h.held_unique (h.published _ hb) (heq ▸ hheld)

/-- If objects are only deleted, those that are not stay. -/
theorem Publishes.objects_of_deletes (h : s.Publishes es s') (hs : s.Sound) (hasc : s.objects.Ascending)
    (deletes : ∀ e ∈ es, e.change = .deleted) :
    s'.objects = s.objects.filter fun b => b.2 ∉ es.map Event.object := by
  induction h with
  | nothing => exact (List.filter_eq_self.2 fun b _ => decide_eq_true List.not_mem_nil).symm
  | log _ same ih => rw [same.objects, ih deletes]
  | @change es s' e before fits ih =>
    obtain ⟨hes, he⟩ := List.forall_mem_append.1 deletes
    obtain ⟨c, p, o⟩ := e
    cases List.forall_mem_singleton.1 he
    have hkept : ∀ b ∈ s'.objects, decide (b.1 ≠ p) = decide (b.2 ≠ o) := fun b hb =>
      decide_eq_decide.2 (not_congr ((before.sound hs).at_place_iff (before.ascending hasc) fits hb))
    show s'.objects.filter _ = _
    rw [List.filter_congr hkept, ih hes, List.filter_filter]
    refine List.filter_congr fun b _ => ?_
    rw [← Bool.decide_and, decide_eq_decide, List.map_append, List.mem_append, not_or, and_comm]
    exact and_congr_right' (not_congr List.mem_singleton.symm)

/-- If objects are only deleted, each of them was there. -/
theorem Publishes.mem_of_deletes (h : s.Publishes es s') (hs : s.Sound) (hasc : s.objects.Ascending)
    (deletes : ∀ e ∈ es, e.change = .deleted) : ∀ e ∈ es, (e.place, e.object) ∈ s.objects := by
  induction h with
  | nothing => exact List.forall_mem_nil _
  | log _ _ ih => exact ih deletes
  | @change es s' e before fits ih =>
    obtain ⟨hes, he⟩ := List.forall_mem_append.1 deletes
    refine List.forall_mem_append.2 ⟨ih hes, List.forall_mem_singleton.2 ?_⟩
    obtain ⟨c, p, o⟩ := e
    cases List.forall_mem_singleton.1 he
    have hmem : (p, o) ∈ s'.objects := Assoc.mem_of_get? fits
    rw [before.objects_of_deletes hs hasc hes] at hmem
    exact (List.mem_filter.1 hmem).1

/-- If objects are only deleted, a selection keeps those that are not. -/
theorem Publishes.select_of_deletes (h : s.Publishes es s') (hs : s.Sound) (hasc : s.objects.Ascending)
    (deletes : ∀ e ∈ es, e.change = .deleted) (t : Target) (sel : Selector) :
    (s'.select t sel).values = (s.select t sel).values.filter fun o => o ∉ es.map Event.object := by
  unfold select Assoc.values
  rw [h.objects_of_deletes hs hasc deletes, List.filter_map, List.filter_filter, List.filter_filter]
  refine congrArg (List.map Prod.snd) (List.filter_congr fun b _ => ?_)
  exact Bool.and_comm ..

/-- A selection loses nothing to deletions exactly if they are of other objects. -/
theorem Publishes.select_eq_iff (h : s.Publishes es s') (hs : s.Sound) (hasc : s.objects.Ascending)
    (deletes : ∀ e ∈ es, e.change = .deleted) (t : Target) (sel : Selector) :
    (s'.select t sel).values = (s.select t sel).values ↔ ∀ e ∈ es, e.isIn t sel = false := by
  rw [h.select_of_deletes hs hasc deletes, List.filter_eq_self]
  simp only [decide_eq_true_eq, mem_values_select_iff]
  constructor
  · intro hkept e he
    refine Bool.eq_false_iff.2 fun hseen => ?_
    obtain ⟨hcovers, hmatch⟩ := Bool.and_eq_true_iff.1 hseen
    exact hkept e.object ⟨e.place, h.mem_of_deletes hs hasc deletes e he, hcovers, hmatch⟩ (List.mem_map_of_mem he)
  · rintro hunseen o ⟨p, hp, hcovers, hmatch⟩ ho
    obtain ⟨e, he, rfl⟩ := List.mem_map.1 ho
    -- an object is at one place only, so the deletion is one that is seen
    have hplace : p = e.place :=
      hs.held_unique (hs.published _ hp) (hs.published _ (h.mem_of_deletes hs hasc deletes e he))
    have hseen : e.isIn t sel = true := Bool.and_eq_true_iff.2 ⟨hplace ▸ hcovers, hmatch⟩
    rw [hunseen e he] at hseen
    cases hseen

end Store

variable {s : Store} {sel : Selection} {terms : Selector}

/-- Between two lists of a collection with the same selection, whatever calls are made, the version that they report
grows by one for each change that stores an object and for nothing else. So it is the same exactly if objects were
only deleted. Then the second list gives what the first one gave but for the objects that were deleted, which is the
same exactly if none of these is in the collection and picked. -/
theorem listed_version_iff (h : s.Reachable) (hsel : sel.selector = .ok terms) (t : Target)
    (xs : List (Fresh × Call)) :
    let s' := (s.list t sel).2.after xs
    let es := s.changesTo s'
    ∃ l l', (s.list t sel).1 = .ok l ∧ (s'.list t sel).1 = .ok l' ∧
      l.resourceVersion = some (toString s.version) ∧
      l'.resourceVersion = some (toString (s.version + es.countP Event.isWrite)) ∧
      (l'.resourceVersion = l.resourceVersion ↔ ∀ e ∈ es, e.change = .deleted) ∧
      (l'.resourceVersion = l.resourceVersion → l'.items = l.items.filter (fun o => o ∉ es.map Event.object) ∧
        (l'.items = l.items ↔ ∀ e ∈ es, e.isIn t terms = false)) := by
  intro s' es
  have hes : s.Publishes es s' := (h.after_list t sel xs).2
  have hversion : some (toString s'.version) = some (toString s.version) ↔ ∀ e ∈ es, e.change = .deleted := by
    rw [← hes.version_eq_iff, Option.some_inj]
    exact ⟨Store.toString_injective, congrArg toString⟩
  refine ⟨_, _, Store.list_eq s t hsel, Store.list_eq s' t hsel, rfl, hes.version ▸ rfl, hversion, fun heq => ?_⟩
  have deletes := hversion.1 heq
  exact ⟨hes.select_of_deletes h.sound h.ascending deletes t terms,
    hes.select_eq_iff h.sound h.ascending deletes t terms⟩

namespace Store

/-- The stage is there, and one of the same name in another namespace. -/
def twoStages : Store :=
  (oneStage.seed ⟨"u2", ""⟩ stages { testStage with metadata := { name := some "test", ns := some "other" } }).2

/-- The deletion of the stage. -/
def deleteStage : Call :=
  .operation demoStages (.delete "test")

/-- If the stage elsewhere is deleted, two lists report the same version and give the same. -/
theorem listed_same_after_deletion_elsewhere :
    let s' := (twoStages.list demoStages {}).2.after [(⟨"", ""⟩, .operation ⟨stages, "other"⟩ (.delete "test"))]
    twoStages.Reachable ∧ ∃ l l', (twoStages.list demoStages {}).1 = .ok l ∧ (s'.list demoStages {}).1 = .ok l' ∧
      l'.resourceVersion = l.resourceVersion ∧ l'.items = l.items ∧ l.items.length = 1 := by
  intro s'
  have hs : twoStages.Reachable := .step (.step (.start 2) (.seed ..)) (.seed ..)
  have hsel : ({} : Selection).selector = .ok [] := rfl
  obtain ⟨l, l', hl, hl', -, -, hsame, hitems⟩ := listed_version_iff hs hsel demoStages
    [(⟨"", ""⟩, .operation ⟨stages, "other"⟩ (.delete "test"))]
  have hversion : l'.resourceVersion = l.resourceVersion :=
    hsame.2 fun e he => List.mem_singleton.1 he ▸ rfl
  refine ⟨hs, l, l', hl, hl', hversion, (hitems hversion).2.2 fun e he => List.mem_singleton.1 he ▸ rfl, ?_⟩
  cases hl
  rfl

/-- If the stage is deleted, two lists report the same version but do not give the same. -/
theorem listed_other_after_deletion :
    let s' := (oneStage.list demoStages {}).2.after [(⟨"", ""⟩, deleteStage)]
    oneStage.Reachable ∧ ∃ l l', (oneStage.list demoStages {}).1 = .ok l ∧ (s'.list demoStages {}).1 = .ok l' ∧
      l.resourceVersion = some "1" ∧ l'.resourceVersion = some "1" ∧ l.items ≠ l'.items :=
  ⟨.step (.start 2) (.seed ..), _, _, rfl, rfl, rfl, rfl, by decide⟩

end Store

end AccessGate.Cluster
