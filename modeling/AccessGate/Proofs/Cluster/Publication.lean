/-
The changes that make a cluster. A change says what is at its place afterwards, and is made only where it can be: an
object is added where none is, modified where one is, and deleted as it is there (`Event.Fits`). Every call makes
some changes one after the other, publishes each and does nothing else but log (`publishes_answer`). So the objects
are what the changes leave, the version counts those that store an object, and no change is published twice
(`Publishes.objects`, `Publishes.version`, `Reachable.nodup_events`).
-/
import AccessGate.Proofs.Cluster.History

namespace AccessGate.Cluster

namespace Event

/-- The object that a change leaves at its place. -/
def stored? (e : Event) : Option Object :=
  match e.change with
  | .added | .modified => some e.object
  | .deleted => none

/-- The objects after a change. -/
def applied (e : Event) (m : Assoc Place Object) : Assoc Place Object :=
  match e.stored? with
  | some o => m.insert e.place o
  | none => m.erase e.place

/-- Whether a change takes a version: it stores an object. -/
def isWrite (e : Event) : Bool :=
  e.stored?.isSome

theorem object_of_stored? {e : Event} {o : Object} (h : e.stored? = some o) : e.object = o := by
  obtain ⟨c, p, o'⟩ := e
  cases c with
  | added | modified => exact Option.some.inj h
  | deleted => cases h

theorem get?_applied (e : Event) (m : Assoc Place Object) (p : Place) :
    (e.applied m).get? p = if p = e.place then e.stored? else m.get? p := by
  unfold applied
  by_cases hp : p = e.place
  · subst hp
    rw [if_pos rfl]
    cases e.stored? with
    | some o => exact Assoc.get?_insert_self e.place o m
    | none => exact Assoc.get?_erase_self e.place m
  · rw [if_neg hp]
    cases e.stored? with
    | some o => exact Assoc.get?_insert_of_ne hp o m
    | none => exact Assoc.get?_erase_of_ne hp m

theorem ascending_applied (e : Event) {m : Assoc Place Object} (h : m.Ascending) : (e.applied m).Ascending := by
  unfold applied
  split
  · exact h.insert _ _
  · exact h.erase _

end Event

/-- The objects after changes that are made one after the other. -/
def replay (m : Assoc Place Object) (es : List Event) : Assoc Place Object :=
  es.foldl (fun m e => e.applied m) m

theorem replay_append (m : Assoc Place Object) (es es' : List Event) :
    replay m (es ++ es') = replay (replay m es) es' :=
  List.foldl_append

theorem replay_snoc (m : Assoc Place Object) (es : List Event) (e : Event) :
    replay m (es ++ [e]) = e.applied (replay m es) :=
  replay_append m es [e]

theorem ascending_replay (es : List Event) : ∀ {m : Assoc Place Object}, m.Ascending → (replay m es).Ascending := by
  induction es with
  | nil => exact fun h => h
  | cons e es ih => exact fun h => ih (e.ascending_applied h)

/-- Whether a change can be made in a cluster. An object that is stored has the version that is next. -/
def Event.Fits (e : Event) (s : Store) : Prop :=
  match e.change with
  | .added => s.objects.get? e.place = none ∧ e.object.FitsAt e.place ∧
      e.object.metadata.resourceVersion = some s.nextVersion
  | .modified => ∃ old, s.objects.get? e.place = some old ∧ e.object.Succeeds old ∧
      e.object.metadata.resourceVersion = some s.nextVersion
  | .deleted => s.objects.get? e.place = some e.object

namespace Store

variable {s s' s'' : Store} {e : Event} {es es' : List Event}

/-- A cluster after a change. -/
def publish (s : Store) (e : Event) : Store :=
  { s with
    objects := e.applied s.objects
    version := if e.isWrite then s.version + 1 else s.version
    events := s.events ++ [e] }

theorem Sound.publish (h : s.Sound) (fits : e.Fits s) : (s.publish e).Sound := by
  obtain ⟨c, p, o⟩ := e
  cases c with
  | added =>
    obtain ⟨-, hfits, hversion⟩ := fits
    exact h.write .added hfits hversion
  | modified =>
    obtain ⟨old, hold, hsucceeds, hversion⟩ := fits
    exact h.write .modified ((h.fits (h.published _ (Assoc.mem_of_get? hold))).succeeds hsucceeds) hversion
  | deleted =>
    have present : ∀ b ∈ [(p, o)], b ∈ s.objects := fun b hb => by
      rw [List.mem_singleton.1 hb]
      exact Assoc.mem_of_get? fits
    exact h.removed present

/-- Whether one cluster becomes another one by the given changes, published in this order, and by nothing else but
entries in the log. -/
inductive Publishes (s : Store) : List Event → Store → Prop
  | nothing : Publishes s [] s
  | log {es : List Event} {s' s'' : Store} (before : Publishes s es s') (same : s'.SameContent s'') : Publishes s es s''
  | change {es : List Event} {s' : Store} {e : Event} (before : Publishes s es s') (fits : e.Fits s') :
      Publishes s (es ++ [e]) (s'.publish e)

namespace Publishes

theorem trans (h : s.Publishes es s') (h' : s'.Publishes es' s'') : s.Publishes (es ++ es') s'' := by
  induction h' with
  | nothing => rwa [List.append_nil]
  | log _ same ih => exact ih.log same
  | change _ fits ih =>
    rw [← List.append_assoc]
    exact ih.change fits

theorem single (fits : e.Fits s) : s.Publishes [e] (s.publish e) :=
  .change .nothing fits

theorem events (h : s.Publishes es s') : s'.events = s.events ++ es := by
  induction h with
  | nothing => exact (List.append_nil _).symm
  | log _ same ih => exact same.events.trans ih
  | change _ _ ih =>
    rw [← List.append_assoc, ← ih]
    rfl

theorem objects (h : s.Publishes es s') : s'.objects = replay s.objects es := by
  induction h with
  | nothing => rfl
  | log _ same ih => exact same.objects.trans ih
  | change _ _ ih =>
    rw [replay_snoc, ← ih]
    rfl

theorem ascending (h : s.Publishes es s') (hs : s.objects.Ascending) : s'.objects.Ascending :=
  h.objects ▸ ascending_replay es hs

/-- The version grows by the number of changes that store an object. -/
theorem version (h : s.Publishes es s') : s'.version = s.version + es.countP Event.isWrite := by
  induction h with
  | nothing => rfl
  | log _ same ih => exact same.version.trans ih
  | @change es s' e _ _ ih =>
    rw [List.countP_append, ← Nat.add_assoc, ← ih, List.countP_singleton]
    unfold publish
    split <;> rfl

theorem sound (h : s.Publishes es s') (hs : s.Sound) : s'.Sound := by
  induction h with
  | nothing => exact hs
  | log _ same ih => exact ih.sameContent same
  | change _ fits ih => exact ih.publish fits

end Publishes

/-! ## Calls -/

/-- The two calls that give nothing but that they are done. -/
theorem deletes_of_done {fresh : Fresh} {x : Call} (h : (s.answer fresh x).1 = .ok .done) :
    ∃ t, (∃ name, x = .operation t (.delete name)) ∨ ∃ sel, x = .operation t (.deleteCollection sel) := by
  cases x with
  | seed r o =>
    obtain ⟨_, hy⟩ := exists_of_produce_ok h
    cases hy
  | operation t a =>
    cases a with
    | delete name => exact ⟨t, .inl ⟨name, rfl⟩⟩
    | deleteCollection sel => exact ⟨t, .inr ⟨sel, rfl⟩⟩
    | _ =>
      obtain ⟨_, hy⟩ := exists_of_produce_ok h
      cases hy

/-- Objects that are at different places can be removed one after the other. -/
theorem publishes_removed : ∀ {bs : Assoc Place Object} {s : Store}, bs.Ascending →
    (∀ b ∈ bs, s.objects.get? b.1 = some b.2) →
    s.Publishes (bs.map fun b => ⟨.deleted, b.1, b.2⟩) (bs.foldl remove s)
  | [], _, _, _ => .nothing
  | b :: bs, s, h, present => by
    obtain ⟨hb, hbs⟩ := List.forall_mem_cons.1 present
    refine (Publishes.single (e := ⟨.deleted, b.1, b.2⟩) hb).trans (publishes_removed (List.pairwise_cons.1 h).2 ?_)
    intro c hc
    have hne : c.1 ≠ b.1 := fun he => by
      have := (List.pairwise_cons.1 h).1 c hc
      rw [he, Std.ReflOrd.compare_self] at this
      cases this
    exact (Assoc.get?_erase_of_ne hne s.objects).trans (hbs c hc)

theorem Effect.publishes {t : Target} {name : String} {r : Except Error Product × Store} (h : Effect t name s r)
    (hdone : r.1 ≠ .ok .done) : ∃ es, s.Publishes es r.2 := by
  cases h with
  | failed e => exact ⟨[], .nothing⟩
  | read => exact ⟨[], .nothing⟩
  | added p o _ absent fits version => exact ⟨_, .single (e := ⟨.added, p, o⟩) ⟨absent, fits, version⟩⟩
  | modified p old o _ present succeeds version =>
    exact ⟨_, .single (e := ⟨.modified, p, o⟩) ⟨old, present, succeeds, version⟩⟩
  | removed => exact absurd rfl hdone

/-- Every call makes changes, none in many cases, and publishes them. -/
theorem publishes_answer (h : s.objects.Ascending) (fresh : Fresh) (x : Call) :
    ∃ es, s.Publishes es (s.answer fresh x).2 := by
  have recorded : ∀ {es s'}, (s.recorded x).Publishes es s' → ∃ es, s.Publishes es s' := fun hes =>
    ⟨_, (Publishes.nothing.log (sameContent_recorded s x)).trans hes⟩
  have hobjects := (sameContent_recorded s x).objects
  by_cases hdone : (s.answer fresh x).1 = .ok .done
  · obtain ⟨t, ⟨name, rfl⟩ | ⟨sel, rfl⟩⟩ := deletes_of_done hdone
    · simp only [answer, perform, produce, delete] at hdone ⊢
      cases hp : (s.logged (logEntry "delete" t none)).objects.get? (t.place name) with
      | none =>
        simp only [hp] at hdone
        cases hdone
      | some o =>
        exact recorded (.single (e := ⟨.deleted, t.place name, o⟩) hp)
    · simp only [answer, perform, produce, deleteCollection] at hdone ⊢
      cases hsel : sel.selector with
      | error e =>
        simp only [hsel] at hdone
        cases hdone
      | ok terms =>
        have hasc : (s.recorded (.operation t (.deleteCollection sel))).objects.Ascending := hobjects ▸ h
        exact recorded (publishes_removed (hasc.filter _) fun b hb => hasc.get?_of_mem (mem_select hb).1)
  · obtain ⟨es, hes⟩ := (answer_effect s fresh x).publishes hdone
    exact recorded hes

/-! ## Runs -/

theorem Reachable.ascending (h : s.Reachable) : s.objects.Ascending := by
  induction h with
  | start n => exact List.Pairwise.nil
  | step _ hs ih =>
    cases hs with
    | seed fresh r o => exact ascending_answer ih fresh (.seed r o)
    | perform fresh t a => exact ascending_answer ih fresh (.operation t a)

theorem Step.publishes (h : s.Step s') (hs : s.objects.Ascending) : ∃ es, s.Publishes es s' := by
  cases h with
  | seed fresh r o => exact publishes_answer hs fresh (.seed r o)
  | perform fresh t a => exact publishes_answer hs fresh (.operation t a)

/-- A cluster that can be reached is what its changes make of an empty one. -/
theorem Reachable.publishes (h : s.Reachable) : ∃ n, (withLogCapacity n).Publishes s.events s := by
  induction h with
  | start n => exact ⟨n, .nothing⟩
  | step before hs ih =>
    obtain ⟨n, hn⟩ := ih
    obtain ⟨es, hes⟩ := hs.publishes before.ascending
    exact ⟨n, hes.events ▸ hn.trans hes⟩

/-- What was published from one moment to a later one. -/
def changesTo (s s' : Store) : List Event :=
  s'.events.drop s.events.length

theorem Publishes.changesTo_eq (h : s.Publishes es s') : s.changesTo s' = es := by
  rw [changesTo, h.events, List.drop_left]

/-- The cluster after some calls, each with the chance values that it may use. -/
def after (s : Store) (xs : List (Fresh × Call)) : Store :=
  xs.foldl (fun s x => (s.answer x.1 x.2).2) s

theorem Reachable.after (h : s.Reachable) (xs : List (Fresh × Call)) : (s.after xs).Reachable := by
  induction xs generalizing s with
  | nil => exact h
  | cons x xs ih => exact ih (h.step (step_answer s x.1 x.2))

theorem Reachable.publishes_after (h : s.Reachable) (xs : List (Fresh × Call)) :
    s.Publishes (s.changesTo (s.after xs)) (s.after xs) := by
  have some_changes : ∃ es, s.Publishes es (s.after xs) := by
    induction xs generalizing s with
    | nil => exact ⟨[], .nothing⟩
    | cons x xs ih =>
      obtain ⟨es, hes⟩ := publishes_answer h.ascending x.1 x.2
      obtain ⟨es', hes'⟩ := ih (h.step (step_answer s x.1 x.2))
      exact ⟨es ++ es', hes.trans hes'⟩
  obtain ⟨es, hes⟩ := some_changes
  rwa [hes.changesTo_eq]

/-! ## No change is published twice -/

/-- Whether a cluster published no change twice, and stores no object that was deleted. -/
structure Unrepeated (s : Store) : Prop where
  nodup : s.events.Nodup
  stored : ∀ p o, s.objects.get? p = some o → ⟨.deleted, p, o⟩ ∉ s.events

/-- An object that a change stores was not there before, nor anywhere else. -/
theorem Sound.not_held_of_stored? (h : s.Sound) (fits : e.Fits s) {o : Object} (ho : e.stored? = some o) (p : Place) :
    ¬ s.Held p o := by
  have hversion : o.metadata.resourceVersion = some s.nextVersion := by
    obtain ⟨c, q, o'⟩ := e
    cases c with
    | added =>
      cases ho
      exact fits.2.2
    | modified =>
      cases ho
      exact fits.choose_spec.2.2
    | deleted => cases ho
  exact fun hheld => h.fresh hheld hversion

theorem Unrepeated.publish (h : s.Unrepeated) (hs : s.Sound) (fits : e.Fits s) : (s.publish e).Unrepeated := by
  have hnew : e ∉ s.events := by
    intro he
    cases ho : e.stored? with
    | some o => exact hs.not_held_of_stored? fits ho e.place ⟨e.change, by rwa [← e.object_of_stored? ho]⟩
    | none =>
      obtain ⟨c, p, o⟩ := e
      cases c with
      | added | modified => cases ho
      | deleted => exact h.stored p o fits he
  refine ⟨?_, fun p o hp hdeleted => ?_⟩
  · exact List.nodup_append.2 ⟨h.nodup, List.pairwise_singleton .., fun a ha b hb hab =>
      hnew (List.mem_singleton.1 hb ▸ hab ▸ ha)⟩
  · have hp : (if p = e.place then e.stored? else s.objects.get? p) = some o := e.get?_applied s.objects p ▸ hp
    have hdeleted : ⟨.deleted, p, o⟩ ∈ s.events ++ [e] := hdeleted
    split at hp
    · rcases List.mem_append.1 hdeleted with hd | hd
      · exact hs.not_held_of_stored? fits hp p ⟨_, hd⟩
      · rw [← List.mem_singleton.1 hd] at hp
        cases hp
    · rename_i hne
      rcases List.mem_append.1 hdeleted with hd | hd
      · exact h.stored p o hp hd
      · exact hne (congrArg Event.place (List.mem_singleton.1 hd))

theorem Publishes.unrepeated (h : s.Publishes es s') (hs : s.Sound) (hu : s.Unrepeated) : s'.Unrepeated := by
  induction h with
  | nothing => exact hu
  | log _ same ih => exact ⟨same.events ▸ ih.nodup, by rw [same.events, same.objects]; exact ih.stored⟩
  | change before fits ih => exact ih.publish (before.sound hs) fits

/-- In a cluster that can be reached no change was published twice. -/
theorem Reachable.nodup_events (h : s.Reachable) : s.events.Nodup := by
  obtain ⟨n, hn⟩ := h.publishes
  exact (hn.unrepeated (sound_start n) ⟨List.nodup_nil, nofun⟩).nodup

end Store

end AccessGate.Cluster
