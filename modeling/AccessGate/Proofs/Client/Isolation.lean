/-
What was reviewed is what is touched. The key that a review is about comes from the request, while the
places that the cluster writes, reads and watches come from the target and from the object or the patch
that it is handed; the two agree (`permits_of_reaches`). Main statement: every object that an operation
changes, gives back, or ever delivers on its stream lies where a review of this operation was allowed
(`touched_reviewed`).
-/
import AccessGate.Proofs.Client.Delegation
import AccessGate.Proofs.Cluster.Watching

namespace AccessGate

/-! ## What a review permits -/

/-- Whether an operation on whatever is at a place was allowed in a review: one about its name or its
collection, in its namespace or in all. -/
structure Review.Permits (r : Review) (verb sub : String) (p : Cluster.Place) : Prop where
  allowed : r.fate = .answered .allowed
  verb : r.attributes.verb = verb
  subresource : r.attributes.subresource = sub
  group : r.attributes.group = p.group
  resource : r.attributes.resource = p.plural
  ns : r.attributes.ns = p.ns ∨ r.attributes.ns = ""
  name : r.attributes.name = p.name ∨ r.attributes.name = ""

/-! ## The key of a request -/

/-- The metadata that the key is taken from is that of the object which the cluster is handed. -/
theorem Kind.metadata_of_toObject? {typed : Json} {o : Cluster.Object} (h : toObject? typed = some o) :
    o.metadata = metadataOf typed := by
  cases typed with
  | obj fields =>
    simp only [toObject?, Cluster.Object.ofJson?, Json.asFields?, bind, Option.bind] at h
    simp only [metadataOf, Json.get?]
    cases hm : Assoc.get? fields "metadata" with
    | none => rw [hm] at h; cases h; rfl
    | some j =>
      simp only [hm] at h
      cases hj : Cluster.Metadata.ofJson? j with
      | none => rw [hj] at h; cases h
      | some m => rw [hj] at h; cases h; simp [hj]
  | _ => cases h

namespace Client

open Cluster (Store Action Target Place Object Change)

variable {c : Client} {call : Call} {k : Kind} {s s' : Store} {q : Request} {a : Action} {p : Place}

theorem Request.action?_name (h : q.action? = some a) : a.name = q.key.name := by
  cases q with
  | create typed =>
    obtain ⟨o, ho, rfl⟩ := Option.map_eq_some_iff.1 h
    simp only [Action.name, Kind.metadata_of_toObject? ho]
    rfl
  | update typed => obtain ⟨o, _, rfl⟩ := Option.map_eq_some_iff.1 h; rfl
  | updateSub sub typed => obtain ⟨o, _, rfl⟩ := Option.map_eq_some_iff.1 h; rfl
  | _ => cases h; rfl

theorem target_ns (d : Descriptor) (q : Request) : (target d q).ns = q.key.ns := by
  simp only [target, Target.of, ObjectKey.scope?]
  split
  · rename_i h; exact h.symm
  · rfl

theorem subresource_of_descriptor? {d : Descriptor} (h : c.descriptor? k q = some d) : d.subresource = "" := by
  obtain ⟨_, _, rfl⟩ := Option.map_eq_some_iff.1 h
  rfl

theorem attributes_operationOf {d : Descriptor} (h : c.descriptor? k q = some d) :
    (operationOf d q).attributes =
      ⟨q.verb.name, d.group, d.version, d.resource, q.subresource, q.key.ns, q.key.name⟩ := by
  unfold operationOf operation
  by_cases hs : q.subresource = ""
  · rw [if_pos hs, hs, ← subresource_of_descriptor? h]; rfl
  · rw [if_neg hs]; rfl

/-- A place that the cluster's operation reaches is one that the reviewed operation is about. -/
theorem permits_of_reaches {d : Descriptor} {r : Review} (hd : c.descriptor? k q = some d) (ha : q.action? = some a)
    (hr : (target d q).Reaches a.name p) (allowed : r.fate = .answered .allowed)
    (hattr : r.attributes = (operationOf d q).attributes) : r.Permits q.verb.name q.subresource p := by
  obtain ⟨hcov, hname⟩ := hr
  simp only [Target.covers, target_ns, Bool.and_eq_true, Bool.or_eq_true, decide_eq_true_eq] at hcov
  obtain ⟨⟨hgroup, hplural⟩, hns⟩ := hcov
  rw [Request.action?_name ha] at hname
  rw [attributes_operationOf hd] at hattr
  refine ⟨allowed, by rw [hattr], by rw [hattr], ?_, ?_, ?_, ?_⟩
  · rw [hattr, hgroup]; rfl
  · rw [hattr, hplural]; rfl
  · rw [hattr]; exact hns.elim .inr fun h => .inl h.symm
  · rw [hattr]; exact hname.elim .inr fun h => .inl h.symm

/-! ## What an operation touches -/

namespace Stream

/-- What a stream gives over time: a change with an object of the cluster, in a cluster that further
operations have led to, whatever was read before. -/
inductive Delivers : Store → Stream → Store → Change → Object → Prop
  | now {s : Store} {w : Stream} {ch : Change} {o : Object} (n : Nat) (going : w.ended = false)
      (given : .change ch o ∈ (w.watch.take s n).1) : Delivers s w s ch o
  | read {s s' : Store} {w : Stream} {ch : Change} {o : Object} (cancelled : Bool) (n : Nat)
      (later : Delivers s (w.take s cancelled n).2 s' ch o) : Delivers s w s' ch o
  | step {s s₁ s' : Store} {w : Stream} {ch : Change} {o : Object} (step : s.Step s₁)
      (later : Delivers s₁ w s' ch o) : Delivers s w s' ch o

/-- A stream never leaves the places that its watch is about, and meanwhile the cluster stays sound. -/
theorem Delivers.within {P : Place → Prop} {w : Stream} {ch : Change} {o : Object} (h : Delivers s w s' ch o)
    (hw : w.watch.Within P s) (hs : s.Sound) : s'.Sound ∧ ∃ p, P p ∧ s'.Held p o := by
  induction h with
  | now n _ given => exact ⟨hs, (hw.take n).1 _ given _ _ rfl⟩
  | read cancelled n _ ih =>
    refine ih ?_ hs
    unfold take
    simp only
    split
    · exact hw
    · exact (hw.take n).2
  | step step _ ih => exact ih (hw.step step) (hs.step step)

end Stream

/-- The objects whose content an operation gives back; those that a stream begins with among them. -/
def disclosed (c : Client) (call : Call) (k : Kind) (s : Store) (q : Request) : List Object :=
  match c.delegated? call k q with
  | none => []
  | some (t, a) =>
    match (s.perform call.fresh t a).1 with
    | .ok p => p.objects
    | .error _ => []

/-- An operation touches a place if it changes what is stored there, gives back an object that is or was
stored there, or opens a stream that at some time delivers such an object. -/
inductive Touches (c : Client) (call : Call) (k : Kind) (s : Store) (q : Request) (p : Place) : Prop
  | changed (differs : (c.perform call k s q).store.objects.get? p ≠ s.objects.get? p)
  | returned (o : Object) (given : o ∈ c.disclosed call k s q) (held : (c.perform call k s q).store.Held p o)
  | delivered (w : Stream) (opened : (c.perform call k s q).outcome = .ok (.stream w)) (s' : Store) (ch : Change)
      (o : Object) (given : w.Delivers (c.perform call k s q).store s' ch o) (held : s'.Held p o)

/-- What is given back are typed documents of what is disclosed. -/
theorem typed_of_ok {x : Product} (h : (c.perform call k s q).outcome = .ok x) :
    ∃ y, Request.typedProduct k y = .ok x ∧ c.disclosed call k s q = y.objects := by
  obtain ⟨t, a, y, hd, hy, hx⟩ := delegated_of_ok h
  refine ⟨y, hx, ?_⟩
  unfold disclosed
  simp only [hd, hy]

theorem typedProduct_stream {x : Cluster.Product} {w : Stream} (h : Request.typedProduct k x = .ok (.stream w)) :
    x = .stream w.watch := by
  cases x with
  | stream w' => cases h; rfl
  | object o => cases ho : Request.typed k o <;> rw [Request.typedProduct, ho] at h <;> cases h
  | listing l =>
    cases hl : l.items.mapM (Request.typed k) <;> rw [Request.typedProduct, hl] at h <;> cases h
  | _ => cases h

/-- What is disclosed is held at a place that the cluster's operation reaches. -/
theorem disclosed_held (hs : s.Sound) {o : Object} (h : o ∈ c.disclosed call k s q) :
    ∃ t a p, c.delegated? call k q = some (t, a) ∧ t.Reaches a.name p ∧
      (c.perform call k s q).store.Held p o := by
  unfold disclosed at h
  cases hd : c.delegated? call k q with
  | none => rw [hd] at h; cases h
  | some r =>
    obtain ⟨t, a⟩ := r
    simp only [hd] at h
    split at h
    · rename_i x hx
      obtain ⟨p, hr, hp⟩ := (Store.perform_effect s call.fresh t a).objects_held (hs.logged _) hx o h
      exact ⟨t, a, p, rfl, hr, by rw [(perform_delegated hd s).2]; exact hp⟩
    · cases h

/-- What a stream delivers is held, by then, at a place that the operation which opened it reaches. -/
theorem delivered_held (hs : s.Sound) {w : Stream} {ch : Change} {o : Object}
    (opened : (c.perform call k s q).outcome = .ok (.stream w))
    (given : w.Delivers (c.perform call k s q).store s' ch o) :
    ∃ t a p, c.delegated? call k q = some (t, a) ∧ t.Reaches a.name p ∧ s'.Sound ∧ s'.Held p o := by
  obtain ⟨t, a, x, hd, hx, hw⟩ := delegated_of_ok opened
  cases typedProduct_stream hw
  have hwithin := Cluster.Watch.within_of_effect (hs.logged _) (Store.perform_effect s call.fresh t a) hx
  rw [(perform_delegated hd s).2] at given
  obtain ⟨hs', p, hr, hp⟩ := given.within hwithin (hs.step (.perform call.fresh t a))
  exact ⟨t, a, p, hd, hr, hs', hp⟩

theorem sound_perform (c : Client) (call : Call) (k : Kind) (q : Request) (hs : s.Sound) :
    (c.perform call k s q).store.Sound := by
  cases hd : c.delegated? call k q with
  | none => rw [perform_undelegated hd s s]; exact hs
  | some r =>
    rw [(perform_delegated hd s).2]
    exact hs.step (.perform call.fresh r.1 r.2)

/-- What an operation touches, the cluster's operation reaches. -/
theorem reaches_of_touches (hs : s.Sound) (h : Touches c call k s q p) :
    ∃ t a, c.delegated? call k q = some (t, a) ∧ t.Reaches a.name p := by
  cases h with
  | changed differs =>
    cases hd : c.delegated? call k q with
    | none => exact absurd (by rw [perform_undelegated hd s s]) differs
    | some r =>
      rw [(perform_delegated hd s).2] at differs
      exact ⟨r.1, r.2, rfl, Classical.byContradiction fun hn =>
        differs (Store.perform_frame s call.fresh r.1 r.2 hn)⟩
  | returned o given held =>
    obtain ⟨t, a, p', hd, hr, hp⟩ := disclosed_held hs given
    -- it is held at one place only
    rw [(sound_perform c call k q hs).held_unique held hp]
    exact ⟨t, a, hd, hr⟩
  | delivered w opened s' ch o given held =>
    obtain ⟨t, a, p', hd, hr, hs', hp⟩ := delivered_held hs opened given
    rw [hs'.held_unique held hp]
    exact ⟨t, a, hd, hr⟩

/-- Whatever an operation touches lies where the reviewer allowed, in the decision on this very operation,
its verb and sub-resource: in that group and resource, in that namespace or in all, under that name or
under any. And no object is moved: each one that is stored afterwards has the name and namespace of its
place. -/
theorem touched_reviewed (c : Client) (call : Call) (k : Kind) (s : Store) (q : Request)
    (hskip : c.skipAuthorization = false) (hc : ∀ i, call.caller = some i → i.isAdmin = false)
    (hs : s.Reachable) (p : Place) (h : Touches c call k s q p) :
    (∃ d, (c.perform call k s q).decision = some d ∧
      ∃ r ∈ d.reviews, r.Permits q.verb.name q.subresource p) ∧
    ∀ p' o, (c.perform call k s q).store.objects.get? p' = some o → o.FitsAt p' := by
  obtain ⟨t, a, hd, hr⟩ := reaches_of_touches hs.sound h
  obtain ⟨d, decision, hdesc, rfl, ha, hdec, r, hmem, hallowed, hattr⟩ :=
    reviewed_of_delegated hskip hc hd s
  refine ⟨⟨decision, hdec, r, hmem, permits_of_reaches hdesc ha hr hallowed hattr⟩, fun p' o hp' => ?_⟩
  have hsound := sound_perform c call k q hs.sound
  exact hsound.fits (hsound.published _ (Assoc.mem_of_get? hp'))

/-- The patch is allowed and changes the secret, which stays where it is. -/
theorem allowed_patch_reviewed :
    let place : Place := ⟨"", "secrets", "demo", "creds"⟩
    oneSecret.Reachable ∧ Touches secretGate (tokenCall .allowed) .secret oneSecret moveSecret place ∧
    ∃ d, (secretGate.perform (tokenCall .allowed) .secret oneSecret moveSecret).decision = some d ∧
      ∃ r ∈ d.reviews, r.Permits "patch" "" place := by
  intro place
  have hs : oneSecret.Reachable := .step (.start 8) (.seed ..)
  have ht : Touches secretGate (tokenCall .allowed) .secret oneSecret moveSecret place := .changed (by decide)
  exact ⟨hs, ht, (touched_reviewed secretGate (tokenCall .allowed) .secret oneSecret moveSecret rfl
    (by rintro i ⟨⟩; rfl) hs place ht).1⟩

end Client

end AccessGate
