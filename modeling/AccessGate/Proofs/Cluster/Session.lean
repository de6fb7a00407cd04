/-
Reading a watch while calls are made on the cluster. What is still to be read is a feed: the objects that were there
when the watch was opened, then the changes published since (`Feed.Reads` says what one read takes from it).
Main statement: whatever calls and reads follow the opening of a watch, in whatever order, the objects are given
first, and then each change of the collection that the selector picks, once and in the order of publication, and
nothing else; only a read that finds more than 256 changes unread gives one error that counts what is lost
(`watch_exact`).
-/
import AccessGate.Proofs.Cluster.Publication

namespace AccessGate.Cluster

/-- A change as a watch gives it. -/
def Event.item (e : Event) : WatchItem Object :=
  .change e.change e.object

/-- An object that was there when a watch was opened, as the watch gives it. -/
def Object.item (o : Object) : WatchItem Object :=
  .change .added o

/-- Whether a change is one in a collection, of an object that the selector picks. -/
def Event.isIn (t : Target) (sel : Selector) (e : Event) : Bool :=
  (e.place.group = t.resource.group && e.place.plural = t.resource.plural && (t.ns = "" || e.place.ns = t.ns)) &&
    sel.isMatch e.object

theorem Event.isIn_eq (t : Target) (sel : Selector) (e : Event) :
    e.isIn t sel = (t.covers e.place && sel.isMatch e.object) :=
  rfl

/-! ## Feeds -/

/-- The error that says how many changes were lost. -/
abbrev lostError (missed : Nat) : WatchItem Object :=
  .error ⟨"Failure", "watch fell behind by " ++ toString missed ++ " events", "Expired", 410⟩

/-- What one who reads a watch has not read yet: objects that were there at first, then changes. -/
structure Feed where
  objects : List Object
  changes : List Event

/-- What a read gives, if anything, and what is then still unread. -/
inductive Feed.Reads (sees : Event → Bool) : Feed → Option (WatchItem Object) → Feed → Prop
  /-- The objects come before all changes. -/
  | object (o : Object) (objects : List Object) (changes : List Event) :
      Reads sees ⟨o :: objects, changes⟩ (some o.item) ⟨objects, changes⟩
  /-- Of more than 256 changes, those before the last 256 are lost. -/
  | lost (missed kept : List Event) (some_missed : missed ≠ []) (window : kept.length = 256) :
      Reads sees ⟨[], missed ++ kept⟩ (some (lostError missed.length)) ⟨[], kept⟩
  /-- Changes that are not seen are passed over up to the first that is. -/
  | change (passed : List Event) (e : Event) (changes : List Event)
      (window : (passed ++ e :: changes).length ≤ 256) (unseen : ∀ e' ∈ passed, sees e' = false)
      (seen : sees e = true) : Reads sees ⟨[], passed ++ e :: changes⟩ (some e.item) ⟨[], changes⟩
  /-- If none is seen, all are passed over and the read waits. -/
  | nothing (passed : List Event) (window : passed.length ≤ 256) (unseen : ∀ e ∈ passed, sees e = false) :
      Reads sees ⟨[], passed⟩ none ⟨[], []⟩

/-- Whether what was given tells of the changes that were read: of each that is seen, in order, and of none else; or
by an error of how many were lost in a row. -/
inductive Tells (sees : Event → Bool) : List Event → List (WatchItem Object) → Prop
  | nothing : Tells sees [] []
  | passed {es : List Event} {is : List (WatchItem Object)} (before : Tells sees es is) (e : Event)
      (unseen : sees e = false) : Tells sees (es ++ [e]) is
  | given {es : List Event} {is : List (WatchItem Object)} (before : Tells sees es is) (e : Event)
      (seen : sees e = true) : Tells sees (es ++ [e]) (is ++ [e.item])
  | lost {es : List Event} {is : List (WatchItem Object)} (before : Tells sees es is) (missed : List Event)
      (some_missed : missed ≠ []) : Tells sees (es ++ missed) (is ++ [lostError missed.length])

theorem Tells.skip {sees : Event → Bool} {is : List (WatchItem Object)} (more : List Event) :
    ∀ {es : List Event}, Tells sees es is → (∀ e ∈ more, sees e = false) → Tells sees (es ++ more) is := by
  induction more with
  | nil =>
    intro es h _
    rwa [List.append_nil]
  | cons e more ih =>
    intro es h unseen
    obtain ⟨he, hmore⟩ := List.forall_mem_cons.1 unseen
    rw [List.append_cons]
    exact ih (h.passed e he) hmore

/-- A read of changes tells of those that it takes. -/
theorem Tells.read {sees : Event → Bool} {es : List Event} {is : List (WatchItem Object)} (h : Tells sees es is)
    {changes : List Event} {i : Option (WatchItem Object)} {f : Feed} (hr : Feed.Reads sees ⟨[], changes⟩ i f) :
    f.objects = [] ∧ ∃ taken, changes = taken ++ f.changes ∧ Tells sees (es ++ taken) (is ++ i.toList) := by
  cases hr with
  | lost missed kept some_missed => exact ⟨rfl, missed, rfl, h.lost missed some_missed⟩
  | change passed e rest _ unseen seen =>
    refine ⟨rfl, passed ++ [e], by simp, ?_⟩
    rw [← List.append_assoc]
    exact (h.skip passed unseen).given e seen
  | nothing passed _ unseen =>
    refine ⟨rfl, changes, (List.append_nil _).symm, ?_⟩
    rw [Option.toList_none, List.append_nil]
    exact h.skip changes unseen

/-! ## One read -/

namespace Watch

/-- What is unread of a watch. -/
def feed (s : Store) (w : Watch) : Feed :=
  ⟨w.initial, s.events.drop w.position⟩

variable {w : Watch} {s : Store}

/-- Of more than so many from a position on, the last ones are kept. -/
theorem drop_eq_missed_append {α : Type} {l : List α} {position window : Nat} (h : window < l.length - position) :
    ∃ missed, l.drop position = missed ++ l.drop (l.length - window) ∧ missed.length = l.length - position - window ∧
      (l.drop (l.length - window)).length = window := by
  have hsum : position + (l.length - position - window) = l.length - window := by omega
  refine ⟨(l.drop position).take (l.length - position - window), ?_, ?_, ?_⟩
  · rw [← hsum, ← List.drop_drop, List.take_append_drop]
  · rw [List.length_take, List.length_drop]
    omega
  · rw [List.length_drop]
    omega

/-- A read takes from the feed what it should, and the watch stays within what was published. -/
theorem next_reads (w : Watch) (s : Store) (h : w.position ≤ s.events.length) :
    (w.feed s).Reads w.sees (w.next s).1 ((w.next s).2.feed s) ∧ (w.next s).2.position ≤ s.events.length ∧
      (w.next s).2.target = w.target ∧ (w.next s).2.selector = w.selector := by
  have hlen : (s.events.drop w.position).length = s.events.length - w.position := List.length_drop
  unfold next feed
  split
  · -- an object that was there when the watch was opened
    rename_i o rest hw
    rw [hw]
    exact ⟨.object o rest _, h, rfl, rfl⟩
  · rename_i hw
    rw [hw]
    simp only
    split
    · -- more changes than the window wait
      rename_i hlost
      refine ⟨?_, Nat.sub_le .., rfl, rfl⟩
      obtain ⟨missed, hdrop, hmissed, hwindow⟩ := drop_eq_missed_append hlost
      rw [hdrop, ← hmissed]
      refine .lost missed _ (fun hnil => ?_) hwindow
      rw [hnil, List.length_nil] at hmissed
      omega
    · rename_i hwindow
      rw [Nat.not_lt, ← hlen] at hwindow
      split
      · rename_i e n he
        obtain ⟨passed, rest, hdrop, hn, unseen, seen⟩ := firstSeen_eq_some he
        have hrest : s.events.drop (w.position + n) = rest := by
          rw [← List.drop_drop, hdrop, ← hn, List.append_cons]
          exact List.drop_left' (List.length_append ..)
        refine ⟨?_, ?_, rfl, rfl⟩
        · simp only [hrest]
          rw [hdrop] at hwindow ⊢
          exact .change passed e rest hwindow unseen seen
        · have := congrArg List.length hdrop
          simp only [List.length_append, List.length_cons] at this
          simp only
          omega
      · rename_i hnone
        refine ⟨?_, Nat.le_refl _, rfl, rfl⟩
        simp only [List.drop_length]
        exact .nothing _ hwindow (firstSeen_eq_none hnone)

theorem sees_eq (w : Watch) : w.sees = Event.isIn w.target w.selector := rfl

/-- What is published meanwhile is unread. -/
theorem feed_of_publishes {s' : Store} {es : List Event} (h : w.position ≤ s.events.length) (hes : s.Publishes es s') :
    w.feed s' = ⟨(w.feed s).objects, (w.feed s).changes ++ es⟩ := by
  unfold feed
  rw [hes.events, List.drop_append_of_le_length h]

end Watch

/-! ## Sessions -/

/-- What may happen while a watch is open: a call on the cluster, or a read of the watch. -/
inductive Move where
  | call (fresh : Fresh) (x : Call)
  | read

/-- A cluster, a watch on it, and what the watch has given so far. -/
structure Session where
  store : Store
  watch : Watch
  given : List (WatchItem Object) := []

namespace Session

def step (c : Session) : Move → Session
  | .call fresh x => { c with store := (c.store.answer fresh x).2 }
  | .read => { c with watch := (c.watch.next c.store).2, given := c.given ++ (c.watch.next c.store).1.toList }

def run (c : Session) (ms : List Move) : Session :=
  ms.foldl step c

/-- What is still unread. -/
def feed (c : Session) : Feed :=
  c.watch.feed c.store

variable {c : Session} {s : Store} {t : Target} {sel : Selector}

/-- Whether a session is one of a watch that was opened in a cluster, on a collection with a selector. -/
structure Follows (c : Session) (s : Store) (t : Target) (sel : Selector) : Prop where
  reachable : c.store.Reachable
  published : s.Publishes (s.changesTo c.store) c.store
  target : c.watch.target = t
  selector : c.watch.selector = sel
  position : c.watch.position ≤ c.store.events.length

namespace Follows

theorem reads (h : c.Follows s t sel) :
    c.feed.Reads (Event.isIn t sel) (c.watch.next c.store).1 (c.step .read).feed := by
  obtain ⟨hreads, -⟩ := c.watch.next_reads c.store h.position
  rwa [Watch.sees_eq, h.target, h.selector] at hreads

theorem publishes_call (h : c.Follows s t sel) (fresh : Fresh) (x : Call) :
    c.store.Publishes (c.store.changesTo (c.store.answer fresh x).2) (c.store.answer fresh x).2 :=
  h.reachable.publishes_after [(fresh, x)]

theorem feed_call (h : c.Follows s t sel) (fresh : Fresh) (x : Call) : (c.step (.call fresh x)).feed =
    ⟨c.feed.objects, c.feed.changes ++ c.store.changesTo (c.store.answer fresh x).2⟩ :=
  Watch.feed_of_publishes h.position (h.publishes_call fresh x)

theorem changesTo_call (h : c.Follows s t sel) (fresh : Fresh) (x : Call) :
    s.changesTo (c.step (.call fresh x)).store =
      s.changesTo c.store ++ c.store.changesTo (c.store.answer fresh x).2 :=
  (h.published.trans (h.publishes_call fresh x)).changesTo_eq

theorem step (h : c.Follows s t sel) (m : Move) : (c.step m).Follows s t sel := by
  cases m with
  | call fresh x =>
    have hpublished := h.published.trans (h.publishes_call fresh x)
    refine ⟨h.reachable.step (Store.step_answer _ fresh x), ?_, h.target, h.selector, ?_⟩
    · exact hpublished.changesTo_eq.symm ▸ hpublished
    · show c.watch.position ≤ (c.store.answer fresh x).2.events.length
      rw [(h.publishes_call fresh x).events, List.length_append]
      exact Nat.le_add_right_of_le h.position
  | read =>
    obtain ⟨-, hposition, htarget, hselector⟩ := c.watch.next_reads c.store h.position
    exact ⟨h.reachable, h.published, htarget.trans h.target, hselector.trans h.selector, hposition⟩

end Follows

/-- Whether the objects that were there when the watch was opened, and what was published since, are told by what was
given as far as they are not unread, the objects first. -/
structure Accounts (c : Session) (s : Store) (sees : Event → Bool) (objects told : List Object) (done : List Event)
    (live : List (WatchItem Object)) : Prop where
  objects : objects = told ++ c.feed.objects
  changes : s.changesTo c.store = done ++ c.feed.changes
  given : c.given = told.map Object.item ++ live
  first : c.feed.objects ≠ [] → done = [] ∧ live = []
  tells : Tells sees done live

variable {objects told : List Object} {done : List Event} {live : List (WatchItem Object)}

theorem Accounts.call (h : c.Accounts s (Event.isIn t sel) objects told done live) (hc : c.Follows s t sel)
    (fresh : Fresh) (x : Call) : (c.step (.call fresh x)).Accounts s (Event.isIn t sel) objects told done live := by
  refine ⟨?_, ?_, h.given, ?_, h.tells⟩
  · rw [hc.feed_call]
    exact h.objects
  · rw [hc.changesTo_call, hc.feed_call, h.changes, List.append_assoc]
  · rw [hc.feed_call]
    exact h.first

theorem Accounts.read (h : c.Accounts s (Event.isIn t sel) objects told done live) (hc : c.Follows s t sel) :
    ∃ told done live, (c.step .read).Accounts s (Event.isIn t sel) objects told done live := by
  have hreads := hc.reads
  obtain ⟨hobjects, hchanges, hgiven, hfirst, htells⟩ := h
  have hgiven' : (c.step .read).given = told.map Object.item ++ (live ++ (c.watch.next c.store).1.toList) := by
    rw [← List.append_assoc, ← hgiven]
    rfl
  generalize (c.watch.next c.store).1 = i at hreads hgiven'
  generalize hf : c.feed = f at hreads hobjects hchanges hfirst
  generalize hf' : (c.step .read).feed = f' at hreads
  obtain ⟨_ | ⟨o, os⟩, changes⟩ := f
  · -- the objects are told, so the read takes changes
    obtain ⟨hnil, taken, rfl, htold⟩ := htells.read hreads
    refine ⟨told, done ++ taken, _, ⟨?_, ?_, hgiven', ?_, htold⟩⟩
    · rw [hf', hnil]
      exact hobjects
    · rw [hf', List.append_assoc]
      exact hchanges
    · rw [hf', hnil]
      exact fun hne => absurd rfl hne
  · -- the next object is told, and nothing was read after it
    obtain ⟨rfl, rfl⟩ := hfirst (List.cons_ne_nil o os)
    cases hreads
    refine ⟨told ++ [o], [], [], ⟨?_, ?_, ?_, fun _ => ⟨rfl, rfl⟩, .nothing⟩⟩
    · rw [hf', hobjects, List.append_cons]
    · rw [hf']
      exact hchanges
    · rw [hgiven', List.map_append, List.append_nil]
      rfl

theorem Follows.accounts_run (hc : c.Follows s t sel) (h : c.Accounts s (Event.isIn t sel) objects told done live)
    (ms : List Move) : (c.run ms).Follows s t sel ∧
      ∃ told done live, (c.run ms).Accounts s (Event.isIn t sel) objects told done live := by
  induction ms generalizing c told done live with
  | nil => exact ⟨hc, told, done, live, h⟩
  | cons m ms ih =>
    cases m with
    | call fresh x => exact ih (hc.step _) (h.call hc fresh x)
    | read =>
      obtain ⟨told', done', live', h'⟩ := h.read hc
      exact ih (hc.step .read) h'

/-- The session that begins when a watch is opened. -/
def opened (s : Store) (t : Target) (sel : Selection) (version : String) (w : Watch) : Session :=
  ⟨(s.watch t sel version).2, w, []⟩

end Session

variable {s : Store} {t : Target} {sel : Selection} {terms : Selector}

theorem Store.watch_eq (s : Store) (t : Target) (hsel : sel.selector = .ok terms) (version : String) :
    s.watch t sel version =
      (.ok ⟨t, terms, if replaysObjects version then (s.select t terms).values else [], s.events.length⟩,
        s.logged (Store.logEntry "watch" t none)) := by
  simp [Store.watch, hsel, Except.map, Store.select]

/-- A watch that was just opened has all its objects unread, and no changes. -/
theorem Session.follows_opened (h : s.Reachable) (hsel : sel.selector = .ok terms) (version : String) {w : Watch}
    (hw : (s.watch t sel version).1 = .ok w) :
    (Session.opened s t sel version w).Follows s t terms ∧ (Session.opened s t sel version w).Accounts s
      (Event.isIn t terms) (if replaysObjects version then (s.select t terms).values else []) [] [] [] := by
  have hlog := Store.sameContent_logged s (Store.logEntry "watch" t none)
  rw [Store.watch_eq s t hsel] at hw
  cases hw
  unfold Session.opened
  rw [Store.watch_eq s t hsel]
  have hnone : s.changesTo (s.logged (Store.logEntry "watch" t none)) = [] := by
    rw [Store.changesTo, hlog.events, List.drop_length]
  have hposition : s.events.length ≤ (s.logged (Store.logEntry "watch" t none)).events.length :=
    Nat.le_of_eq (congrArg List.length hlog.events.symm)
  refine ⟨⟨?_, ?_, rfl, rfl, hposition⟩, ⟨rfl, ?_, rfl, fun _ => ⟨rfl, rfl⟩, .nothing⟩⟩
  · have hstep := h.step (.perform ⟨"", ""⟩ t (.watch sel version))
    rwa [Store.perform, produce, Store.watch_eq s t hsel] at hstep
  · exact hnone.symm ▸ .log .nothing hlog
  · show _ = List.drop s.events.length (s.logged _).events
    rw [hnone, hlog.events, List.drop_length]

theorem replaysObjects_iff {version : String} : replaysObjects version = true ↔ version = "" ∨ version = "0" := by
  simp [replaysObjects]

/-- A watch whose selector can be read opens. Whatever calls and reads follow, what was given so far is first, only if
the watch starts from no version or from 0, the objects of the collection that were there and that the selector picks,
each once and in order; and then each change that was published since, in the collection and of an object that the
selector picks, once and in order, and nothing about any other. What a read gives next is the next of these; but if
no object is left and more than 256 changes are unread, whatever they are about, it is the error that counts those
before the last 256, which are then what is unread. And a call adds what it publishes to what is unread. -/
theorem watch_exact (h : s.Reachable) (hsel : sel.selector = .ok terms) (t : Target) (version : String) :
    ∃ w, (s.watch t sel version).1 = .ok w ∧
      (∀ o, o ∈ (s.select t terms).values ↔
        ∃ p, s.objects.get? p = some o ∧ (p.group = t.resource.group ∧ p.plural = t.resource.plural ∧
          (t.ns = "" ∨ p.ns = t.ns)) ∧ Selector.isMatch terms o = true) ∧
      (s.select t terms).values.Pairwise Object.Precedes ∧
      ∀ ms : List Move,
        let c := (Session.opened s t sel version w).run ms
        (∃ told done live, c.Accounts s (Event.isIn t terms)
          (if version = "" ∨ version = "0" then (s.select t terms).values else []) told done live) ∧
        c.feed.Reads (Event.isIn t terms) (c.watch.next c.store).1 (c.step .read).feed ∧
        (c.step .read).given = c.given ++ (c.watch.next c.store).1.toList ∧
        ∀ fresh x, (c.step (.call fresh x)).given = c.given ∧ (c.step (.call fresh x)).feed =
          ⟨c.feed.objects, c.feed.changes ++ c.store.changesTo (c.store.answer fresh x).2⟩ := by
  have hw : ∃ w, (s.watch t sel version).1 = .ok w := ⟨_, by rw [Store.watch_eq s t hsel]⟩
  obtain ⟨w, hw⟩ := hw
  refine ⟨w, hw, fun o => ?_, Store.pairwise_select h h.ascending t terms, fun ms => ?_⟩
  · rw [Store.mem_values_select_iff]
    simp only [h.ascending.get?_eq_some_iff, Target.covers_iff]
  · obtain ⟨hfollows, haccounts⟩ := Session.follows_opened h hsel version hw
    obtain ⟨hfollows, haccounts⟩ := hfollows.accounts_run haccounts ms
    simp only [replaysObjects_iff] at haccounts
    exact ⟨haccounts, hfollows.reads, rfl, fun fresh x => ⟨rfl, hfollows.feed_call fresh x⟩⟩

open Store in
/-- A watch of all stages gives the stage that is there and then its change. -/
theorem watched_stage_told :
    oneStage.Reachable ∧ ∃ w, (oneStage.watch ⟨stages, ""⟩ {} "0").1 = .ok w ∧
      let c := (Session.opened oneStage ⟨stages, ""⟩ {} "0" w).run [.read, .call ⟨"u2", ""⟩ patchSpec, .read]
      (∃ told done live, c.Accounts oneStage (Event.isIn ⟨stages, ""⟩ [])
        (oneStage.select ⟨stages, ""⟩ []).values told done live) ∧
      c.given = (oneStage.select ⟨stages, ""⟩ []).values.map Object.item ++ [.change .modified patchedStage] := by
  have hs : oneStage.Reachable := .step (.start 2) (.seed ..)
  have hsel : ({} : Selection).selector = .ok [] := rfl
  obtain ⟨w, hw, -, -, hrun⟩ := watch_exact hs hsel ⟨stages, ""⟩ "0"
  refine ⟨hs, w, hw, (hrun _).1, ?_⟩
  cases hw
  rfl

end AccessGate.Cluster
