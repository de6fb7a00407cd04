/-
Deleting a collection. It takes what a list with the same selection gives: it fails as the list does, it removes
exactly the objects that the list gives and publishes the deletion of each in the order of the list, and a list after
it is empty. Main statement: `deletes_what_is_listed`.
-/
import AccessGate.Proofs.Cluster.Cache
import AccessGate.Proofs.Cluster.Version
import Mathlib.Data.List.Nodup

namespace AccessGate.Cluster

variable {s : Store} {t : Target} {sel : Selection} {terms : Selector}

namespace Store

theorem deleteCollection_eq (s : Store) (t : Target) (hsel : sel.selector = .ok terms) :
    s.deleteCollection t sel =
      (.ok (), (s.select t terms).foldl remove (s.logged (logEntry "deletecollection" t none))) := by
  simp [deleteCollection, hsel, select]

/-! ## Failure -/

theorem list_eq_error {e : Error} : (s.list t sel).1 = .error e ↔ sel.selector = .error e := by
  unfold list
  cases sel.selector <;> simp [Except.map]

theorem deleteCollection_eq_error {e : Error} : (s.deleteCollection t sel).1 = .error e ↔ sel.selector = .error e := by
  unfold deleteCollection
  cases sel.selector <;> simp

/-- A list is given exactly if the selection can be read. -/
theorem list_eq_ok {l : Listing Object} : (s.list t sel).1 = .ok l ↔
    ∃ terms, sel.selector = .ok terms ∧ l = ⟨some (toString s.version), none, (s.select t terms).values⟩ := by
  cases hsel : sel.selector with
  | error e => simp [list_eq_error.2 hsel]
  | ok terms => simp [list_eq s t hsel, eq_comm]

/-! ## What is left -/

/-- Removing a selection keeps the objects that are not in the collection or not picked. -/
theorem get?_removed_select (h : s.objects.Ascending) (t : Target) (terms : Selector) {s₀ : Store}
    (hs : s₀.objects = s.objects) {p : Place} {o : Object} :
    ((s.select t terms).foldl remove s₀).objects.get? p = some o ↔
      s.objects.get? p = some o ∧ ¬ (t.covers p = true ∧ terms.isMatch o = true) := by
  rw [objects_removed, hs, h.get?_filter]
  refine and_congr_right fun ho => ?_
  rw [has_select h t terms (Assoc.mem_of_get? ho), Bool.not_eq_true', ← Bool.and_eq_true, Bool.not_eq_true]

/-- An object is listed exactly if the place where it is belongs to the collection and the selector picks it. -/
theorem mem_values_select_of_get? (h : s.Sound) {p : Place} {o : Object} (ho : s.objects.get? p = some o) :
    o ∈ (s.select t terms).values ↔ t.covers p = true ∧ terms.isMatch o = true := by
  have hp := Assoc.mem_of_get? ho
  rw [mem_values_select_iff]
  constructor
  · rintro ⟨q, hq, hcovers, hmatch⟩
    -- the object is at no other place
    have hqp : q = p := h.held_unique (h.published _ hq) (h.published _ hp)
    exact ⟨hqp ▸ hcovers, hmatch⟩
  · exact fun hseen => ⟨p, hp, hseen⟩

theorem get?_placeOf (h : s.Reachable) {o : Object} (ho : o ∈ (s.select t terms).values) :
    s.objects.get? (t.placeOf o) = some o :=
  ((get?_select h.ascending t terms).1 ((get?_select_iff_mem h).2 ⟨ho, rfl⟩)).1

theorem nodup_values_select (h : s.Reachable) (t : Target) (terms : Selector) : (s.select t terms).values.Nodup := by
  have hasc : (s.select t terms).Ascending := h.ascending.filter _
  have hnodup : (s.select t terms).Nodup := List.Nodup.of_map Prod.fst hasc.nodup_keys
  rw [← select_eq_map h.sound] at hnodup
  exact List.Nodup.of_map _ hnodup

/-- The deletions of what is selected are those of the objects that a list gives. -/
theorem map_deleted_select (h : s.Sound) (t : Target) (terms : Selector) :
    ((s.select t terms).map fun b => (⟨.deleted, b.1, b.2⟩ : Event)) =
      (s.select t terms).values.map fun o => ⟨.deleted, t.placeOf o, o⟩ := by
  unfold Assoc.values
  rw [List.map_map]
  refine List.map_congr_left fun b hb => ?_
  rw [← mem_select_fits h hb]
  rfl

end Store

open Store in
/-- Deleting a collection fails exactly if a list with the same selection does, and with the same error. Otherwise each
listed object was stored where its namespace and name say, what is stored afterwards is what was and is not listed,
one deletion is published for each listed object, in the order of the list and with the object as it was, and a list
after it gives nothing. -/
theorem deletes_what_is_listed (h : s.Reachable) (t : Target) (sel : Selection) :
    let s' := (s.deleteCollection t sel).2
    (∀ e, (s.deleteCollection t sel).1 = .error e ↔ (s.list t sel).1 = .error e) ∧
    ((s.deleteCollection t sel).1 = .ok () ↔ ∃ l, (s.list t sel).1 = .ok l) ∧
    ∀ l, (s.list t sel).1 = .ok l →
      l.items.Nodup ∧
      (∀ o ∈ l.items, s.objects.get? (t.placeOf o) = some o) ∧
      (∀ p o, s'.objects.get? p = some o ↔ s.objects.get? p = some o ∧ o ∉ l.items) ∧
      s'.events = s.events ++ l.items.map (fun o => ⟨.deleted, t.placeOf o, o⟩) ∧
      ∃ l', (s'.list t sel).1 = .ok l' ∧ l'.items = [] := by
  intro s'
  refine ⟨fun e => deleteCollection_eq_error.trans list_eq_error.symm, ?_, fun l hl => ?_⟩
  · cases hsel : sel.selector with
    | error e => simp [deleteCollection_eq_error.2 hsel, list_eq_error.2 hsel]
    | ok terms => simp [deleteCollection_eq s t hsel, list_eq s t hsel]
  · obtain ⟨terms, hsel, rfl⟩ := list_eq_ok.1 hl
    have hs' : s' = (s.select t terms).foldl remove (s.logged (logEntry "deletecollection" t none)) :=
      congrArg Prod.snd (deleteCollection_eq s t hsel)
    have hleft : ∀ p o, s'.objects.get? p = some o ↔
        s.objects.get? p = some o ∧ ¬ (t.covers p = true ∧ terms.isMatch o = true) := fun p o => by
      rw [hs', get?_removed_select h.ascending t terms (logged_objects s _)]
    have hasc' : s'.objects.Ascending := (h.step (.perform ⟨"", ""⟩ t (.deleteCollection sel))).ascending
    refine ⟨nodup_values_select h t terms, fun o => get?_placeOf h, fun p o => ?_, ?_, _, list_eq s' t hsel, ?_⟩
    · rw [hleft]
      exact and_congr_right fun ho => not_congr (mem_values_select_of_get? h.sound ho).symm
    · rw [hs', (foldl_remove _ _).2.1, logged_events, map_deleted_select h.sound]
    · -- an object that is listed again would be picked, and those that are picked are gone
      refine List.eq_nil_iff_forall_not_mem.2 fun o ho => ?_
      obtain ⟨p, hp, hpicked⟩ := mem_values_select_iff.1 ho
      exact ((hleft p o).1 (hasc'.get?_of_mem hp)).2 hpicked

namespace Store

/-- A stage in production and, in another namespace, one that is not. -/
def tieredStages : Store :=
  (oneProductionStage.seed ⟨"u2", ""⟩ stages
    { tierStage "dev" with metadata := { (tierStage "dev").metadata with ns := some "other" } }).2

/-- Of the stages of all namespaces, the one in production is deleted and the other one left. -/
theorem production_deleted :
    let all : Target := ⟨stages, ""⟩
    let s' := (tieredStages.deleteCollection all ofProduction).2
    tieredStages.Reachable ∧ (tieredStages.deleteCollection all ofProduction).1 = .ok () ∧
      s'.events.map Event.change = [.added, .added, .deleted] ∧
      s'.objects.get? (demoStages.place "test") = none ∧
      (s'.objects.get? ((⟨stages, "other"⟩ : Target).place "test")).isSome = true := by
  intro all s'
  have hs : tieredStages.Reachable := .step (.step (.start 2) (.seed ..)) (.seed ..)
  obtain ⟨l, hl⟩ : ∃ l, (tieredStages.list all ofProduction).1 = .ok l := ⟨_, by rfl⟩
  obtain ⟨-, hok, hdeleted⟩ := deletes_what_is_listed hs all ofProduction
  obtain ⟨-, -, hleft, hevents, -⟩ := hdeleted l hl
  cases hl
  refine ⟨hs, hok.2 ⟨_, rfl⟩, by rw [hevents]; decide, ?_, ?_⟩
  · refine Option.eq_none_iff_forall_ne_some.2 fun o ho => ?_
    obtain ⟨hstored, hno⟩ := (hleft _ o).1 ho
    cases hstored
    exact hno (by decide)
  · exact Option.isSome_iff_exists.2 ⟨_, (hleft _ _).2 ⟨rfl, by decide⟩⟩

end Store

end AccessGate.Cluster
