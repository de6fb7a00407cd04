/-
What a watch gives to one who keeps up: if never more than 256 changes are unread, the objects that were there and all
changes that the watch sees (`delivered_eq`). Main statement: a watch that is opened at the version of an earlier list
gives the changes that come after it was opened, so what was published in its collection between the list and the watch
is lost, all but objects that were added to a cluster without a version and are still the same (`list_then_watch`).
-/
import AccessGate.Proofs.Cluster.Session

namespace AccessGate.Cluster

/-! ## Reading until nothing is there -/

/-- All that a feed still gives if nothing of it is lost. -/
def Feed.pending (sees : Event → Bool) (f : Feed) : List (WatchItem Object) :=
  f.objects.map Object.item ++ (f.changes.filter sees).map Event.item

theorem filter_unseen {sees : Event → Bool} {passed : List Event} (unseen : ∀ e ∈ passed, sees e = false) :
    passed.filter sees = [] :=
  List.filter_eq_nil_iff.2 fun e he => by simp [unseen e he]

/-- A read of no more than the window gives the next of what is pending. -/
theorem Feed.Reads.pending {sees : Event → Bool} {f f' : Feed} {i : Option (WatchItem Object)} (h : f.Reads sees i f')
    (window : f.changes.length ≤ 256) : f.pending sees = i.toList ++ f'.pending sees := by
  cases h with
  | object o objects changes => rfl
  | lost missed kept some_missed hkept =>
    have hmissed := List.length_pos_iff.2 some_missed
    rw [List.length_append] at window
    omega
  | change passed e changes _ unseen seen =>
    simp only [Feed.pending, List.map_nil, List.nil_append, List.filter_append, filter_unseen unseen,
      List.filter_cons_of_pos seen, List.map_cons, Option.toList_some, List.singleton_append]
  | nothing passed _ unseen =>
    simp only [Feed.pending, filter_unseen unseen, List.filter_nil, List.map_nil, List.append_nil, Option.toList_none]

theorem Feed.Reads.eq_nil {sees : Event → Bool} {f f' : Feed} (h : f.Reads sees none f') : f' = ⟨[], []⟩ := by
  cases h
  rfl

/-- What a read that gives something leaves is less, and not more changes. -/
theorem Feed.Reads.shorter {sees : Event → Bool} {f f' : Feed} {i : WatchItem Object} (h : f.Reads sees (some i) f') :
    f'.objects.length + f'.changes.length < f.objects.length + f.changes.length ∧
      f'.changes.length ≤ f.changes.length := by
  cases h with
  | object o objects changes => simp
  | lost missed kept some_missed =>
    have hmissed := List.length_pos_iff.2 some_missed
    simp only [List.length_append]
    omega
  | change passed e changes =>
    simp only [List.length_append, List.length_cons]
    omega

namespace Watch

variable {s : Store}

theorem take_eq_pending {sees : Event → Bool} : ∀ (n : Nat) (w : Watch), w.sees = sees →
    w.position ≤ s.events.length → (w.feed s).changes.length ≤ 256 →
    (w.feed s).objects.length + (w.feed s).changes.length < n → (w.take s n).1 = (w.feed s).pending sees
  | 0, _, _, _, _, hn => absurd hn (Nat.not_lt_zero _)
  | n + 1, w, hsees, hposition, hwindow, hn => by
    obtain ⟨hreads, hposition', htarget, hselector⟩ := w.next_reads s hposition
    have hsees' : (w.next s).2.sees = sees := by rw [sees_eq, htarget, hselector, ← hsees, sees_eq]
    rw [hsees] at hreads
    rw [hreads.pending hwindow]
    rcases hnext : w.next s with ⟨_ | i, w'⟩
    · simp only [take, hnext] at hreads ⊢
      rw [hreads.eq_nil]
      rfl
    · simp only [take, hnext] at hreads hposition' hsees' ⊢
      obtain ⟨hless, hchanges⟩ := hreads.shorter
      rw [take_eq_pending n w' hsees' hposition' (Nat.le_trans hchanges hwindow) (by omega)]
      rfl

/-- A watch that no more than the window is unread of gives all that is pending if it is read until nothing is there. -/
theorem drain_eq_pending {w : Watch} (hposition : w.position ≤ s.events.length)
    (hwindow : (w.feed s).changes.length ≤ 256) : (w.drain s).1 = (w.feed s).pending w.sees := by
  refine take_eq_pending _ w rfl hposition hwindow ?_
  simp only [feed, bound, List.length_drop]
  omega

end Watch

/-! ## One who keeps up -/

namespace Session

/-- Whether no more than the window is unread at any time. -/
def KeepsUp (c : Session) : List Move → Prop
  | [] => c.feed.changes.length ≤ 256
  | m :: ms => c.feed.changes.length ≤ 256 ∧ (c.step m).KeepsUp ms

instance decidableKeepsUp : (ms : List Move) → (c : Session) → Decidable (c.KeepsUp ms)
  | [], c => inferInstanceAs (Decidable (c.feed.changes.length ≤ 256))
  | m :: ms, c =>
    have := decidableKeepsUp ms (c.step m)
    inferInstanceAs (Decidable (c.feed.changes.length ≤ 256 ∧ (c.step m).KeepsUp ms))

/-- What a watch has given, with what it gives if it is then read until nothing is there. -/
def delivered (c : Session) : List (WatchItem Object) :=
  c.given ++ (c.watch.drain c.store).1

variable {c : Session} {s : Store} {t : Target} {sel : Selector}

theorem KeepsUp.window {ms : List Move} (h : c.KeepsUp ms) : c.feed.changes.length ≤ 256 := by
  cases ms with
  | nil => exact h
  | cons m ms => exact h.1

/-- Whether nothing is lost: what was given and what is pending are together the objects that were there and all
changes since that are seen. -/
def Complete (c : Session) (s : Store) (t : Target) (sel : Selector) (objects : List Object) : Prop :=
  c.given ++ c.feed.pending (Event.isIn t sel) =
    objects.map Object.item ++ ((s.changesTo c.store).filter (Event.isIn t sel)).map Event.item

variable {objects : List Object}

theorem Complete.step (h : c.Complete s t sel objects) (hc : c.Follows s t sel)
    (window : c.feed.changes.length ≤ 256) (m : Move) : (c.step m).Complete s t sel objects := by
  unfold Complete at h ⊢
  cases m with
  | call fresh x =>
    rw [hc.changesTo_call, hc.feed_call, List.filter_append, List.map_append, ← List.append_assoc, ← h]
    show c.given ++ _ = _
    simp only [Feed.pending, List.filter_append, List.map_append, List.append_assoc]
  | read =>
    rw [hc.reads.pending window] at h
    show c.given ++ _ ++ _ = _
    rw [List.append_assoc]
    exact h

/-- As long as one keeps up, nothing is lost. -/
theorem Complete.run (ms : List Move) : ∀ {c : Session}, c.Complete s t sel objects → c.Follows s t sel →
    c.KeepsUp ms → (c.run ms).Complete s t sel objects ∧ (c.run ms).Follows s t sel ∧
      (c.run ms).feed.changes.length ≤ 256 := by
  induction ms with
  | nil => exact fun h hc keeps => ⟨h, hc, keeps⟩
  | cons m ms ih => exact fun h hc keeps => ih (h.step hc keeps.1 m) (hc.step m) keeps.2

end Session

variable {s : Store} {t : Target} {sel : Selection} {terms : Selector} {w : Watch}

/-- A watch gives to one who keeps up the objects that were there, if it starts with them, and all changes since that
it sees, in their order. -/
theorem Session.delivered_eq (h : s.Reachable) (hsel : sel.selector = .ok terms) {version : String}
    (hw : (s.watch t sel version).1 = .ok w) {ms : List Move} (keeps : (Session.opened s t sel version w).KeepsUp ms) :
    let c := (Session.opened s t sel version w).run ms
    c.Follows s t terms ∧ c.delivered =
      (if replaysObjects version then (s.select t terms).values else []).map Object.item ++
        ((s.changesTo c.store).filter (Event.isIn t terms)).map Event.item := by
  intro c
  obtain ⟨hfollows, haccounts⟩ := Session.follows_opened h hsel version hw
  have hcomplete : (Session.opened s t sel version w).Complete s t terms
      (if replaysObjects version then (s.select t terms).values else []) := by
    have hchanges := haccounts.changes
    have hobjects := haccounts.objects
    rw [List.nil_append] at hchanges hobjects
    rw [Complete, hchanges, hobjects]
    rfl
  obtain ⟨hcomplete, hfollows, hwindow⟩ := hcomplete.run ms hfollows keeps
  refine ⟨hfollows, ?_⟩
  rw [delivered, Watch.drain_eq_pending hfollows.position hwindow, Watch.sees_eq, hfollows.target, hfollows.selector]
  exact hcomplete

/-! ## A watch after a list -/

theorem Event.isIn_nil (t : Target) (e : Event) : e.isIn t [] = t.covers e.place :=
  Bool.and_true _

/-- A watch that is opened at the version of a list starts with the objects that are there only if nothing was ever
written before the list. -/
theorem replaysObjects_toString {n : Nat} : replaysObjects (toString n) = true ↔ n = 0 := by
  rw [replaysObjects_iff]
  constructor
  · rintro (hempty | hzero)
    · have hn : n = Nat.ofDigitChars 10 (toString n).toList 0 := by simp
      rw [hn, hempty]
      rfl
    · exact Store.toString_injective (b := 0) hzero
  · rintro rfl
    exact .inr rfl

/-- An item tells of one change only. -/
theorem Store.Reachable.item_injective (h : s.Reachable) {e e' : Event} (he : e ∈ s.events) (he' : e' ∈ s.events)
    (heq : e.item = e'.item) : e = e' := by
  obtain ⟨c, p, o⟩ := e
  obtain ⟨c', p', o'⟩ := e'
  cases heq
  rw [h.sound.held_unique ⟨c, he⟩ ⟨c, he'⟩]

theorem Store.list_eq (s : Store) (t : Target) (hsel : sel.selector = .ok terms) :
    (s.list t sel).1 = .ok ⟨some (toString s.version), none, (s.select t terms).values⟩ := by
  simp [Store.list, hsel, Except.map, Store.select]

theorem Store.Reachable.after_list (h : s.Reachable) (t : Target) (sel : Selection) (xs : List (Fresh × Call)) :
    ((s.list t sel).2.after xs).Reachable ∧
      s.Publishes (s.changesTo ((s.list t sel).2.after xs)) ((s.list t sel).2.after xs) := by
  have hlist : (s.list t sel).2.after xs = s.after ((⟨"", ""⟩, .operation t (.list sel)) :: xs) := rfl
  rw [hlist]
  exact ⟨h.after _, h.publishes_after _⟩

/-- A change that was published before a watch was opened is told by the objects that the watch starts with only if
it added one of them, and by no later change. -/
theorem Store.Reachable.told_before_iff {s₁ s₂ : Store} (h₂ : s₂.Reachable)
    (hs₂ : s₁.Publishes (s₁.changesTo s₂) s₂) {e : Event} (he : e ∈ s₁.events) {objects : List Object}
    {seen : Event → Bool} :
    e.item ∈ objects.map Object.item ++ ((s₁.changesTo s₂).filter seen).map Event.item ↔
      e.change = .added ∧ e.object ∈ objects := by
  rw [List.mem_append, List.mem_map, List.mem_map]
  constructor
  · rintro (⟨o, ho, hitem⟩ | ⟨e', he', hitem⟩)
    · obtain ⟨c, p, o'⟩ := e
      cases hitem
      exact ⟨rfl, ho⟩
    · -- the same change would have been published before the watch was opened and after
      have he' := (List.mem_filter.1 he').1
      have hnodup := h₂.nodup_events
      have hmem : e ∈ s₂.events := by
        rw [hs₂.events]
        exact List.mem_append_left _ he
      have hmem' : e' ∈ s₂.events := by
        rw [hs₂.events]
        exact List.mem_append_right _ he'
      rw [hs₂.events] at hnodup
      cases h₂.item_injective hmem' hmem hitem
      exact absurd he' (fun he' => (List.nodup_append.1 hnodup).2.2 e he e he' rfl)
  · rintro ⟨hadded, ho⟩
    refine .inl ⟨e.object, ho, ?_⟩
    rw [Event.item, hadded]
    rfl

theorem Store.Reachable.mem_values_select_iff (h : s.Reachable) {e : Event} (he : e ∈ s.events)
    (hcovers : t.covers e.place = true) :
    e.object ∈ (s.select t []).values ↔ s.objects.get? e.place = some e.object := by
  rw [Store.mem_values_select_iff]
  constructor
  · rintro ⟨p, hp, -, -⟩
    have hplace : p = e.place := h.sound.held_unique (h.sound.published _ hp) ⟨e.change, he⟩
    exact hplace ▸ h.ascending.get?_of_mem hp
  · exact fun hp => ⟨e.place, Assoc.mem_of_get? hp, hcovers, rfl⟩

/-- What a session on a collection tells of a change that was published before it was opened. -/
theorem Store.Reachable.told_at_opening_iff (h : s.Reachable) {c : Session} (hc : c.Follows s t []) {e : Event}
    (he : e ∈ s.events) (hcovers : t.covers e.place = true) {replays : Prop} [Decidable replays]
    {seen : Event → Bool} :
    e.item ∈ (if replays then (s.select t []).values else []).map Object.item ++
        ((s.changesTo c.store).filter seen).map Event.item ↔
      replays ∧ e.change = .added ∧ s.objects.get? e.place = some e.object := by
  rw [hc.reachable.told_before_iff hc.published he, ← h.mem_values_select_iff he hcovers]
  split
  · rename_i hreplays
    simp [hreplays]
  · rename_i hreplays
    simp [hreplays]

/-- A watch without a selector that is opened at the version of an earlier list gives, if one keeps up, the objects that
are there if nothing had been written before the list, and then the changes of its collection that were published after
it was opened. So the changes since the list are all told exactly if none of those before the watch is lost, and each
is lost but one that added an object, in a cluster without any write before, that is the same when the watch opens. -/
theorem list_then_watch (h : s.Reachable) (hsel : sel.selector = .ok []) {l : Listing Object}
    (hl : (s.list t sel).1 = .ok l) {version : String} (hversion : l.resourceVersion = some version)
    (xs : List (Fresh × Call)) {s₁ : Store} (hs₁ : s₁ = (s.list t sel).2.after xs)
    (hw : (s₁.watch t sel version).1 = .ok w) {ms : List Move}
    (keeps : (Session.opened s₁ t sel version w).KeepsUp ms) :
    let c := (Session.opened s₁ t sel version w).run ms
    (c.delivered = (if s.version = 0 then (s₁.select t []).values else []).map Object.item ++
      ((s₁.changesTo c.store).filter fun e => t.covers e.place).map Event.item) ∧
    ((∀ e ∈ s.changesTo c.store, t.covers e.place = true → e.item ∈ c.delivered) ↔
      ∀ e ∈ s.changesTo s₁, t.covers e.place = true →
        s.version = 0 ∧ e.change = .added ∧ s₁.objects.get? e.place = some e.object) := by
  intro c
  obtain ⟨hreachable, hpublishes⟩ : s₁.Reachable ∧ s.Publishes (s.changesTo s₁) s₁ := hs₁ ▸ h.after_list t sel xs
  obtain ⟨hfollows, hdelivered⟩ := Session.delivered_eq hreachable hsel hw keeps
  rw [Store.list_eq s t hsel] at hl
  cases hl
  cases hversion
  have hisIn : Event.isIn t [] = fun e => t.covers e.place := funext (Event.isIn_nil t)
  simp only [replaysObjects_toString, hisIn] at hdelivered
  have hsplit : s.changesTo c.store = s.changesTo s₁ ++ s₁.changesTo c.store :=
    (hpublishes.trans hfollows.published).changesTo_eq
  have hbefore : ∀ e ∈ s.changesTo s₁, t.covers e.place = true → (e.item ∈ c.delivered ↔
      s.version = 0 ∧ e.change = .added ∧ s₁.objects.get? e.place = some e.object) := by
    intro e he hcovers
    rw [hdelivered]
    exact hreachable.told_at_opening_iff hfollows (hpublishes.events ▸ List.mem_append_right _ he) hcovers
  refine ⟨hdelivered, ?_⟩
  rw [hsplit]
  constructor
  · exact fun h e he hcovers => (hbefore e he hcovers).1 (h e (List.mem_append_left _ he) hcovers)
  · intro h e he hcovers
    rcases List.mem_append.1 he with he | he
    · exact (hbefore e he hcovers).2 (h e he hcovers)
    · rw [hdelivered]
      exact List.mem_append_right _ (List.mem_map_of_mem (List.mem_filter.2 ⟨he, hcovers⟩))

namespace Store

/-- The stages of one namespace. -/
def demoStages : Target :=
  ⟨stages, "demo"⟩

/-- A stage was added elsewhere between the list and the watch, and the stage is patched after; nothing is lost. -/
theorem patch_after_watch_told :
    let s₁ := (oneStage.list demoStages {}).2.after
      [(⟨"u2", ""⟩, .seed stages { testStage with metadata := { name := some "test", ns := some "other" } })]
    oneStage.Reachable ∧ ∃ w, (s₁.watch demoStages {} "1").1 = .ok w ∧
      let c := (Session.opened s₁ demoStages {} "1" w).run [.call ⟨"u3", ""⟩ patchSpec]
      ∀ e ∈ oneStage.changesTo c.store, demoStages.covers e.place = true → e.item ∈ c.delivered := by
  intro s₁
  have hs : oneStage.Reachable := .step (.start 2) (.seed ..)
  have hsel : ({} : Selection).selector = .ok [] := rfl
  obtain ⟨w, hw⟩ : ∃ w, (s₁.watch demoStages {} "1").1 = .ok w := ⟨_, rfl⟩
  have keeps : (Session.opened s₁ demoStages {} "1" w).KeepsUp [.call ⟨"u3", ""⟩ patchSpec] := by
    cases hw
    decide
  refine ⟨hs, w, hw, (list_then_watch hs hsel (list_eq oneStage demoStages hsel) rfl _ rfl hw keeps).2.2 ?_⟩
  intro e he hcovers
  have hchanges : oneStage.changesTo s₁ = [⟨.added, ⟨stages.group, "stages", "other", "test"⟩, _⟩] := rfl
  rw [hchanges, List.mem_singleton] at he
  rw [he] at hcovers
  cases hcovers

/-- A patch between a list and a watch that is opened at the version of the list is told by nothing. -/
theorem patch_before_watch_lost :
    let s₁ := (oneStage.list demoStages {}).2.after [(⟨"u2", ""⟩, patchSpec)]
    oneStage.Reachable ∧ (∃ l, (oneStage.list demoStages {}).1 = .ok l ∧ l.resourceVersion = some "1") ∧
      ∃ w, (s₁.watch demoStages {} "1").1 = .ok w ∧
        let c := Session.opened s₁ demoStages {} "1" w
        c.KeepsUp [] ∧ ∃ e ∈ oneStage.changesTo c.store, demoStages.covers e.place = true ∧ e.item ∉ c.delivered := by
  intro s₁
  refine ⟨.step (.start 2) (.seed ..), ⟨_, rfl, rfl⟩, _, rfl, by decide, ?_⟩
  refine ⟨⟨.modified, ⟨stages.group, "stages", "demo", "test"⟩, patchedStage⟩, List.mem_singleton.2 rfl, rfl, ?_⟩
  exact List.not_mem_nil

end Store

end AccessGate.Cluster
