/-
A cache of a collection, kept from what a watch gives: an object that is added or modified is stored under its
namespace and name, one that is deleted is removed. An object can leave the collection that a selector picks without
being deleted, by a change to one that the selector does not pick; of that the watch says nothing (`LeftBehind`).
Main statement: the cache holds what a list gives and, as they were, the objects that left and did not come back
(`cached_iff_listed_or_left`).
-/
import AccessGate.Proofs.Cluster.Delivery

namespace AccessGate.Cluster

/-! ## Keeping a cache -/

/-- Where an object of a collection is kept: under its namespace and name. -/
def Target.placeOf (t : Target) (o : Object) : Place :=
  ⟨t.resource.group, t.resource.plural, o.metadata.ns.getD "", o.metadata.name.getD ""⟩

/-- A cache after an item of a watch. -/
def Target.cacheItem (t : Target) (m : Assoc Place Object) : WatchItem Object → Assoc Place Object
  | .change .deleted o => m.erase (t.placeOf o)
  | .change .added o | .change .modified o => m.insert (t.placeOf o) o
  | .bookmark _ | .error _ => m

/-- The cache that the items of a watch lead to. -/
def Target.cached (t : Target) (is : List (WatchItem Object)) : Assoc Place Object :=
  is.foldl t.cacheItem []

theorem Object.FitsAt.placeOf_eq {o : Object} {p : Place} {t : Target} (h : o.FitsAt p) (hcovers : t.covers p = true) :
    t.placeOf o = p := by
  obtain ⟨hg, hr, -⟩ := Target.covers_iff.1 hcovers
  unfold Target.placeOf
  rw [h.getD_ns, h.getD_name, ← hg, ← hr]

theorem Event.cacheItem_item {e : Event} {t : Target} (h : t.placeOf e.object = e.place) (m : Assoc Place Object) :
    t.cacheItem m e.item = e.applied m := by
  obtain ⟨c, p, o⟩ := e
  change t.placeOf o = p at h
  subst h
  cases c <;> rfl

theorem Target.foldl_cacheItem_events {t : Target} (es : List Event) : ∀ {m : Assoc Place Object},
    (∀ e ∈ es, t.placeOf e.object = e.place) → (es.map Event.item).foldl t.cacheItem m = replay m es := by
  induction es with
  | nil => exact fun _ => rfl
  | cons e es ih =>
    intro m h
    obtain ⟨he, hes⟩ := List.forall_mem_cons.1 h
    rw [List.map_cons, List.foldl_cons, e.cacheItem_item he, ih hes]
    rfl

theorem Target.foldl_cacheItem_objects {t : Target} (bs : Assoc Place Object) : ∀ {m : Assoc Place Object},
    (∀ b ∈ bs, t.placeOf b.2 = b.1) →
    (bs.values.map Object.item).foldl t.cacheItem m = bs.foldl (fun m b => m.insert b.1 b.2) m := by
  induction bs with
  | nil => exact fun _ => rfl
  | cons b bs ih =>
    intro m h
    obtain ⟨hb, hbs⟩ := List.forall_mem_cons.1 h
    show ((Assoc.values bs).map Object.item).foldl t.cacheItem (m.insert (t.placeOf b.2) b.2) = _
    rw [hb, ih hbs]
    rfl

/-! ## Objects that leave -/

section Leaving

variable {sel : Selector} {m : Assoc Place Object} {es : List Event} {e : Event} {p : Place} {o : Object}

/-- Whether an object that a selector picks was at a place, was modified to one that the selector does not pick, and
nothing that it picks was published there since. -/
def LeftBehind (sel : Selector) (m : Assoc Place Object) (es : List Event) (p : Place) (o : Object) : Prop :=
  ∃ before o' after, es = before ++ ⟨.modified, p, o'⟩ :: after ∧ (replay m before).get? p = some o ∧
    sel.isMatch o = true ∧ sel.isMatch o' = false ∧ ∀ e ∈ after, e.place = p → sel.isMatch e.object = false

theorem not_leftBehind_nil : ¬ LeftBehind sel m [] p o := by
  rintro ⟨before, o', after, h, -⟩
  cases before <;> cases h

theorem leftBehind_snoc : LeftBehind sel m (es ++ [e]) p o ↔
    (LeftBehind sel m es p o ∧ (e.place = p → sel.isMatch e.object = false)) ∨
      (e.change = .modified ∧ e.place = p ∧ (replay m es).get? p = some o ∧ sel.isMatch o = true ∧
        sel.isMatch e.object = false) := by
  constructor
  · rintro ⟨before, o', after, heq, hget, ho, ho', hafter⟩
    rcases List.eq_nil_or_concat after with rfl | ⟨after, z, rfl⟩
    · obtain ⟨rfl, hlast⟩ := List.append_inj' heq rfl
      cases hlast
      exact .inr ⟨rfl, rfl, hget, ho, ho'⟩
    · rw [List.concat_eq_append, ← List.cons_append, ← List.append_assoc] at heq
      obtain ⟨rfl, hz⟩ := List.append_inj' heq rfl
      cases hz
      simp only [List.concat_eq_append, List.forall_mem_append, List.forall_mem_singleton] at hafter
      exact .inl ⟨⟨before, o', after, rfl, hget, ho, ho', hafter.1⟩, hafter.2⟩
  · rintro (⟨⟨before, o', after, rfl, hget, ho, ho', hafter⟩, he⟩ | ⟨hc, rfl, hget, ho, ho'⟩)
    · refine ⟨before, o', after ++ [e], by simp, hget, ho, ho', ?_⟩
      exact List.forall_mem_append.2 ⟨hafter, List.forall_mem_singleton.2 he⟩
    · obtain ⟨c, q, o'⟩ := e
      cases hc
      exact ⟨es, o', [], rfl, hget, ho, ho', List.forall_mem_nil _⟩

/-- If every object is modified to one that the selector picks, none leaves. -/
theorem not_leftBehind_of_modified (h : ∀ e ∈ es, e.change = .modified → sel.isMatch e.object = true) :
    ¬ LeftBehind sel m es p o := by
  rintro ⟨before, o', after, rfl, -, -, ho', -⟩
  have hmem : ⟨.modified, p, o'⟩ ∈ before ++ ⟨.modified, p, o'⟩ :: after :=
    List.mem_append_right _ (List.mem_cons_self ..)
  rw [h _ hmem rfl] at ho'
  cases ho'

/-- Changes of objects that the selector does not pick leave none that it picks. -/
theorem not_picked_replay (es : List Event) : ∀ {m : Assoc Place Object},
    (∀ o', m.get? p = some o' → sel.isMatch o' = false) →
    (∀ e ∈ es, e.place = p → sel.isMatch e.object = false) →
    ∀ o', (replay m es).get? p = some o' → sel.isMatch o' = false := by
  induction es with
  | nil => exact fun hm _ => hm
  | cons e es ih =>
    intro m hm hes
    obtain ⟨he, hes⟩ := List.forall_mem_cons.1 hes
    refine ih (m := e.applied m) (fun o' ho' => ?_) hes
    rw [Event.get?_applied] at ho'
    split at ho'
    · rename_i hp
      exact e.object_of_stored? ho' ▸ he hp.symm
    · exact hm o' ho'

/-- Where an object left, there is none that the selector picks. -/
theorem LeftBehind.not_picked (h : LeftBehind sel m es p o) {o' : Object} (ho' : (replay m es).get? p = some o') :
    sel.isMatch o' = false := by
  obtain ⟨before, o₁, after, rfl, -, -, ho₁, hafter⟩ := h
  rw [replay_append] at ho'
  have habsent : ∀ o₂, (Event.applied ⟨.modified, p, o₁⟩ (replay m before)).get? p = some o₂ →
      sel.isMatch o₂ = false := by
    intro o₂ ho₂
    rw [Event.get?_applied, if_pos rfl] at ho₂
    cases ho₂
    exact ho₁
  exact not_picked_replay after habsent hafter o' ho'

/-! ## The cache and the list -/

theorem get?_replay_filter_snoc (f : Event → Bool) (m : Assoc Place Object) (es : List Event) (e : Event) (p : Place) :
    (replay m ((es ++ [e]).filter f)).get? p =
      if f e = true ∧ p = e.place then e.stored? else (replay m (es.filter f)).get? p := by
  rw [List.filter_append]
  by_cases hf : f e = true
  · rw [List.filter_cons_of_pos hf, List.filter_nil, replay_snoc, Event.get?_applied]
    simp only [hf, true_and]
  · rw [List.filter_cons_of_neg hf, List.filter_nil, List.append_nil, if_neg fun h => hf h.1]

namespace Store

variable {s s' : Store} {t : Target}

theorem get?_select (h : s.objects.Ascending) (t : Target) (sel : Selector) : (s.select t sel).get? p = some o ↔
    s.objects.get? p = some o ∧ t.covers p = true ∧ sel.isMatch o = true := by
  rw [select, h.get?_filter, Bool.and_eq_true]

/-- A change that the selector picks at a place, where it does not pick the object after or the other way round, is not
a deletion; and where an object is, it is no addition. -/
theorem modified_of_fits (fits : e.Fits s) (ho : s.objects.get? e.place = some o)
    (hne : sel.isMatch e.object ≠ sel.isMatch o) : e.change = .modified := by
  obtain ⟨c, p, o'⟩ := e
  cases c with
  | added =>
    have habsent : s.objects.get? p = none := fits.1
    cases habsent.symm.trans ho
  | modified => rfl
  | deleted =>
    have hthere : s.objects.get? p = some o' := fits
    cases hthere.symm.trans ho
    exact absurd rfl hne

/-- Seen changes alone lead from what was selected to what is selected now and the objects that left. -/
theorem Publishes.get?_replay_seen (h : s.Publishes es s') (hs : s.objects.Ascending) (t : Target) (sel : Selector)
    (p : Place) (o : Object) : (replay (s.select t sel) (es.filter (Event.isIn t sel))).get? p = some o ↔
      (s'.select t sel).get? p = some o ∨ t.covers p = true ∧ LeftBehind sel s.objects es p o := by
  induction h with
  | nothing => simp [replay, not_leftBehind_nil]
  | log _ same ih =>
    rw [ih, select, select, same.objects]
  | @change es s' e before fits ih =>
    have hasc := before.ascending hs
    have hobjects : (s'.publish e).objects.get? p = if p = e.place then e.stored? else s'.objects.get? p :=
      e.get?_applied s'.objects p
    have hpublished : (s'.publish e).objects.Ascending := e.ascending_applied hasc
    rw [get?_select hasc] at ih
    rw [get?_replay_filter_snoc, get?_select hpublished, leftBehind_snoc, hobjects]
    by_cases hp : p = e.place
    · subst hp
      by_cases hseen : e.isIn t sel = true
      · -- the change is seen, and what it stores is selected
        obtain ⟨hcovers, hmatch⟩ : t.covers e.place = true ∧ sel.isMatch e.object = true :=
          Bool.and_eq_true_iff.1 hseen
        simp only [hseen, true_and, if_true, hcovers, hmatch]
        constructor
        · exact fun ho => .inl ⟨ho, e.object_of_stored? ho ▸ hmatch⟩
        · rintro (⟨ho, -⟩ | ⟨-, hno⟩ | ⟨-, -, -, hno⟩)
          · exact ho
          · cases hno trivial
          · cases hno
      · -- the change is not seen: the object that was selected leaves, or none was
        rw [if_neg fun hboth => hseen hboth.1, if_pos rfl, ih]
        by_cases hcovers : t.covers e.place = true
        · have hmatch : sel.isMatch e.object = false := by
            simpa [Event.isIn_eq, hcovers] using hseen
          constructor
          · rintro (⟨ho, -, hm⟩ | ⟨-, hleft⟩)
            · have hne : sel.isMatch e.object ≠ sel.isMatch o := by rw [hmatch, hm]; decide
              exact .inr ⟨hcovers, .inr ⟨modified_of_fits fits ho hne, rfl, before.objects ▸ ho, hm, hmatch⟩⟩
            · exact .inr ⟨hcovers, .inl ⟨hleft, fun _ => hmatch⟩⟩
          · rintro (⟨ho, -, hm⟩ | ⟨-, ⟨hleft, -⟩ | ⟨-, -, ho, hm, -⟩⟩)
            · rw [← e.object_of_stored? ho, hmatch] at hm
              cases hm
            · exact .inr ⟨hcovers, hleft⟩
            · exact .inl ⟨before.objects ▸ ho, hcovers, hm⟩
        · simp [hcovers]
    · -- nothing changes at this place
      have hp' : e.place ≠ p := Ne.symm hp
      simp only [hp, hp', and_false, if_false, false_and, or_false, false_implies, and_true]
      exact ih

/-- Where an object left, none is selected. -/
theorem Publishes.not_selected (h : s.Publishes es s') (hs : s.objects.Ascending)
    (hleft : LeftBehind sel s.objects es p o) (t : Target) (o' : Object) : (s'.select t sel).get? p ≠ some o' := by
  intro ho'
  obtain ⟨hstored, -, hmatch⟩ := (get?_select (h.ascending hs) t sel).1 ho'
  rw [h.objects] at hstored
  rw [hleft.not_picked hstored] at hmatch
  cases hmatch

theorem mem_select_fits (h : s.Sound) {b : Place × Object} (hb : b ∈ s.select t sel) : t.placeOf b.2 = b.1 :=
  (h.fits (h.published _ (mem_select hb).1)).placeOf_eq (mem_select hb).2.1

/-- What is selected is given by the objects that a list gives. -/
theorem select_eq_map (h : s.Sound) (t : Target) (sel : Selector) :
    (s.select t sel).values.map (fun o => (t.placeOf o, o)) = s.select t sel := by
  unfold Assoc.values
  rw [List.map_map]
  have hself : ∀ b ∈ s.select t sel, (t.placeOf b.2, b.2) = b := fun b hb => Prod.ext (mem_select_fits h hb) rfl
  exact (List.map_congr_left hself).trans (List.map_id _)

theorem get?_select_iff_mem (h : s.Reachable) : (s.select t sel).get? p = some o ↔
    o ∈ (s.select t sel).values ∧ t.placeOf o = p := by
  have hasc : (s.select t sel).Ascending := h.ascending.filter _
  rw [hasc.get?_eq_some_iff]
  constructor
  · exact fun hb => ⟨List.mem_map_of_mem hb, mem_select_fits h.sound hb⟩
  · rintro ⟨ho, rfl⟩
    rw [← select_eq_map h.sound t sel]
    exact List.mem_map_of_mem ho

/-- The cache that objects and then changes lead to is what the changes make of the objects. -/
theorem cached_eq_replay (h : s.Reachable) (hes : ∀ e ∈ es, t.placeOf e.object = e.place) :
    t.cached ((s.select t sel).values.map Object.item ++ es.map Event.item) = replay (s.select t sel) es := by
  have hasc : (s.select t sel).Ascending := h.ascending.filter _
  rw [Target.cached, List.foldl_append, Target.foldl_cacheItem_objects _ fun b hb => mem_select_fits h.sound hb]
  rw [Target.foldl_cacheItem_events es hes]
  exact congrArg (replay · es) hasc.ofBindings_eq

end Store

end Leaving

variable {s : Store} {t : Target} {sel : Selection} {terms : Selector} {w : Watch}

/-- The cache of one who keeps up is what the changes that the watch sees make of what was there. -/
theorem Session.cached_delivered (h : s.Reachable) (hsel : sel.selector = .ok terms) {version : String}
    (hversion : version = "" ∨ version = "0") (hw : (s.watch t sel version).1 = .ok w) {ms : List Move}
    (keeps : (Session.opened s t sel version w).KeepsUp ms) :
    let c := (Session.opened s t sel version w).run ms
    c.Follows s t terms ∧
      t.cached c.delivered = replay (s.select t terms) ((s.changesTo c.store).filter (Event.isIn t terms)) := by
  intro c
  obtain ⟨hfollows, hdelivered⟩ := Session.delivered_eq h hsel hw keeps
  rw [if_pos (replaysObjects_iff.2 hversion)] at hdelivered
  refine ⟨hfollows, ?_⟩
  rw [hdelivered]
  refine Store.cached_eq_replay h fun e he => ?_
  obtain ⟨he, hseen⟩ := List.mem_filter.1 he
  have hmem : e ∈ c.store.events := hfollows.published.events ▸ List.mem_append_right _ he
  exact (hfollows.reachable.sound.fits ⟨e.change, hmem⟩).placeOf_eq (Bool.and_eq_true_iff.1 hseen).1

/-- Let a cache be kept from a watch that starts with the objects that are there, by one who keeps up. At each moment
it holds what a list with the same selection gives then, and besides each object that left behind the watch, as it was
before. Of the places where one left the list gives nothing, so the cache is the list exactly if none left. -/
theorem cached_iff_listed_or_left (h : s.Reachable) (hsel : sel.selector = .ok terms)
    {version : String} (hversion : version = "" ∨ version = "0") (hw : (s.watch t sel version).1 = .ok w)
    {ms : List Move} (keeps : (Session.opened s t sel version w).KeepsUp ms) :
    let c := (Session.opened s t sel version w).run ms
    let left := LeftBehind terms s.objects (s.changesTo c.store)
    ∃ l, (c.store.list t sel).1 = .ok l ∧
      (∀ p o, (t.cached c.delivered).get? p = some o ↔
        o ∈ l.items ∧ t.placeOf o = p ∨ t.covers p = true ∧ left p o) ∧
      (∀ p o, left p o → ∀ o' ∈ l.items, t.placeOf o' ≠ p) ∧
      (t.cached c.delivered = l.items.map (fun o => (t.placeOf o, o)) ↔ ∀ p o, t.covers p = true → ¬ left p o) := by
  intro c left
  obtain ⟨hfollows, hcache⟩ := Session.cached_delivered h hsel hversion hw keeps
  have hreachable : c.store.Reachable := hfollows.reachable
  have hget : ∀ p o, (t.cached c.delivered).get? p = some o ↔
      (c.store.select t terms).get? p = some o ∨ t.covers p = true ∧ left p o := by
    rw [hcache]
    exact hfollows.published.get?_replay_seen h.ascending t terms
  have hselect : ∀ p o, left p o → ∀ o', (c.store.select t terms).get? p ≠ some o' := fun p o hleft =>
    hfollows.published.not_selected h.ascending hleft t
  refine ⟨_, Store.list_eq c.store t hsel, fun p o => ?_, fun p o hleft o' ho' hp => ?_, ?_⟩
  · rw [hget, Store.get?_select_iff_mem hreachable]
  · exact hselect p o hleft o' ((Store.get?_select_iff_mem hreachable).2 ⟨ho', hp⟩)
  · show _ = (c.store.select t terms).values.map _ ↔ _
    rw [Store.select_eq_map hreachable.sound]
    constructor
    · intro heq p o hcovers hleft
      exact hselect p o hleft o (heq ▸ (hget p o).2 (.inr ⟨hcovers, hleft⟩))
    · intro hnone
      have hasc : (t.cached c.delivered).Ascending := hcache ▸ ascending_replay _ (h.ascending.filter _)
      refine hasc.ext_get? (hreachable.ascending.filter _) fun p => Option.ext fun o => ?_
      rw [hget]
      exact or_iff_left fun hleft => hnone p o hleft.1 hleft.2

namespace Store

/-- The selection of what is in production. -/
def ofProduction : Selection :=
  { labels := some "tier=prod" }

/-- The stage, in a tier. -/
def tierStage (tier : String) : Object :=
  { testStage with metadata := { testStage.metadata with labels := some [("tier", tier)] } }

def oneProductionStage : Store :=
  ((withLogCapacity 2).seed ⟨"u1", ""⟩ stages (tierStage "prod")).2

/-- A patch that changes the stage and leaves it in its tier. -/
theorem cached_after_patch_listed :
    oneProductionStage.Reachable ∧ ∃ w, (oneProductionStage.watch demoStages ofProduction "0").1 = .ok w ∧
      let c := (Session.opened oneProductionStage demoStages ofProduction "0" w).run [.call ⟨"u2", ""⟩ patchSpec]
      ∃ l, (c.store.list demoStages ofProduction).1 = .ok l ∧ l.items.length = 1 ∧
        demoStages.cached c.delivered = l.items.map fun o => (demoStages.placeOf o, o) := by
  have hs : oneProductionStage.Reachable := .step (.start 2) (.seed ..)
  have hsel : ofProduction.selector = .ok [.equals "tier" "prod"] := by rfl
  obtain ⟨w, hw⟩ : ∃ w, (oneProductionStage.watch demoStages ofProduction "0").1 = .ok w := ⟨_, by rfl⟩
  have keeps : (Session.opened oneProductionStage demoStages ofProduction "0" w).KeepsUp
      [.call ⟨"u2", ""⟩ patchSpec] := by
    cases hw
    decide
  obtain ⟨l, hl, -, -, heq⟩ := cached_iff_listed_or_left hs hsel (.inr rfl) hw keeps
  refine ⟨hs, w, hw, l, hl, ?_, heq.2 ?_⟩
  · cases hl
    rfl
  · intro p o _
    refine not_leftBehind_of_modified fun e he _ => ?_
    cases hw
    rw [List.mem_singleton.1 he]
    decide

/-- A patch that takes the stage out of production. -/
def demoteStage : Call :=
  .operation demoStages (.patch "test" ⟨.merge, .obj [("metadata", .obj [("labels", .obj [("tier", .str "dev")])])]⟩)

/-- The stage leaves production, and the cache keeps it. -/
theorem cached_after_demotion_stale :
    oneProductionStage.Reachable ∧ ∃ w, (oneProductionStage.watch demoStages ofProduction "0").1 = .ok w ∧
      let c := (Session.opened oneProductionStage demoStages ofProduction "0" w).run [.call ⟨"u2", ""⟩ demoteStage]
      (Session.opened oneProductionStage demoStages ofProduction "0" w).KeepsUp [.call ⟨"u2", ""⟩ demoteStage] ∧
      ∃ l, (c.store.list demoStages ofProduction).1 = .ok l ∧ l.items = [] ∧
        demoStages.cached c.delivered ≠ l.items.map fun o => (demoStages.placeOf o, o) := by
  refine ⟨.step (.start 2) (.seed ..), _, rfl, by decide, _, rfl, by decide, by decide⟩

end Store

end AccessGate.Cluster
