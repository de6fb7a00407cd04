/-
A stream that a caller opened, while anything happens around it: calls on the cluster, requests through gates, reads of
the stream, and the cancellation of the call that opened it. Until then it is a mirror of the cluster's watch, read for
read (`Mirrors.step`). Main statement: a watch that is let through opens such a stream, nothing is reviewed for it
after that, and from the cancellation on every read says that it is over (`stream_until_cancelled`).
-/
import AccessGate.Proofs.Client.Delegation
import AccessGate.Proofs.Cluster.Session

namespace AccessGate

/-! ## Reads of the cluster's watch -/

namespace Cluster.Session

/-- What each read of the watch gives, if anything. -/
def reads (b : Session) : List Move → List (Option (WatchItem Object))
  | [] => []
  | .call fresh x :: ms => (b.step (.call fresh x)).reads ms
  | .read :: ms => (b.watch.next b.store).1 :: (b.step .read).reads ms

theorem run_append (b : Session) (ms ms' : List Move) : b.run (ms ++ ms') = (b.run ms).run ms' :=
  List.foldl_append

theorem reads_append (b : Session) (ms ms' : List Move) : b.reads (ms ++ ms') = b.reads ms ++ (b.run ms).reads ms' := by
  induction ms generalizing b with
  | nil => rfl
  | cons m ms ih =>
    cases m with
    | call fresh x => exact ih _
    | read => exact congrArg (_ :: ·) (ih _)

/-- What a session gives is what its reads give, but for those that wait. -/
theorem given_run (b : Session) (ms : List Move) : (b.run ms).given = b.given ++ (b.reads ms).filterMap id := by
  induction ms generalizing b with
  | nil => exact (List.append_nil _).symm
  | cons m ms ih =>
    cases m with
    | call fresh x => exact ih _
    | read =>
      show ((b.step .read).run ms).given = _
      rw [ih, reads]
      show b.given ++ (b.watch.next b.store).1.toList ++ _ = _
      rw [List.append_assoc]
      cases (b.watch.next b.store).1 <;> rfl

end Cluster.Session

namespace Client

open Cluster (Store Fresh WatchItem Selection)

/-! ## One read -/

/-- What a read of a stream comes to. -/
inductive Reading where
  | item (i : Except AccessError (WatchItem Json))
  /-- Nothing is there yet. -/
  | waiting
  /-- The stream is over. -/
  | ended

/-- A read of the cluster's watch as one of a stream of a kind. -/
def Reading.ofWatch (k : Kind) : Option (WatchItem Cluster.Object) → Reading
  | none => waiting
  | some i => item (Stream.typedItem k i)

/-- The item of a read, if it came to one. -/
def Reading.item? : Reading → Option (Except AccessError (WatchItem Json))
  | item i => some i
  | waiting | ended => none

theorem Reading.filterMap_item?_ofWatch (k : Kind) (rs : List (Option (WatchItem Cluster.Object))) :
    (rs.map (ofWatch k)).filterMap item? = (rs.filterMap id).map (Stream.typedItem k) := by
  have hitem : item? ∘ ofWatch k = fun r => (id r).map (Stream.typedItem k) := by
    funext r
    cases r <;> rfl
  rw [List.filterMap_map, List.map_filterMap, hitem]

/-- The document of an object in a stream of a kind: its own, with the names of the kind if it has no type. -/
def Stream.document (k : Kind) (o : Cluster.Object) : Json :=
  match o.types with
  | some t =>
    .object ([("apiVersion", .str t.apiVersion), ("kind", .str t.kind), ("metadata", o.metadata.toJson)] ++ o.data)
  | none =>
    .object ([("apiVersion", .str (if k.group = "" then k.version else k.group ++ "/" ++ k.version)),
      ("kind", .str k.kind), ("metadata", o.metadata.toJson)] ++ o.data)

/-- What an item of the cluster's watch becomes in a stream of a kind: a change has the typed object that the document
of the object is read as, or if it cannot be read as one of the kind, there is an error in its place; everything else
stays as it is. -/
inductive Stream.TypedAs (k : Kind) : WatchItem Cluster.Object → Except AccessError (WatchItem Json) → Prop
  | change (ch : Cluster.Change) (o : Cluster.Object) (typed : Json) (read : k.read? (document k o) = some typed) :
      TypedAs k (.change ch o) (.ok (.change ch typed))
  | unreadable (ch : Cluster.Change) (o : Cluster.Object) (unread : k.read? (document k o) = none) :
      TypedAs k (.change ch o) (.error .conversion)
  | bookmark (b : Cluster.Bookmark) : TypedAs k (.bookmark b) (.ok (.bookmark b))
  | error (status : Cluster.ApiStatus) : TypedAs k (.error status) (.ok (.error status))

theorem Stream.ofObject?_eq (k : Kind) (o : Cluster.Object) : k.ofObject? o = k.read? (document k o) := by
  obtain ⟨types | types, metadata, data⟩ := o <;> rfl

theorem Stream.typedItem_eq_iff {k : Kind} {i : WatchItem Cluster.Object} {x : Except AccessError (WatchItem Json)} :
    typedItem k i = x ↔ TypedAs k i x := by
  constructor
  · rintro rfl
    rcases i with ⟨ch, o⟩ | b | status
    · cases ho : k.read? (document k o) with
      | some typed => simpa only [typedItem, ofObject?_eq, ho] using TypedAs.change ch o typed ho
      | none => simpa only [typedItem, ofObject?_eq, ho] using TypedAs.unreadable ch o ho
    · exact .bookmark b
    · exact .error status
  · rintro (⟨ch, o, j, hread⟩ | ⟨ch, o, hunread⟩ | b | status)
    · simp only [typedItem, ofObject?_eq, hread]
    · simp only [typedItem, ofObject?_eq, hunread]
    · rfl
    · rfl

namespace Stream

/-- One read of a stream, and the stream afterwards. -/
def next (s : Store) (cancelled : Bool) (w : Stream) : Reading × Stream :=
  let w := w.afterCancel cancelled
  if w.ended then (.ended, w)
  else (.ofWatch w.kind (w.watch.next s).1, { w with watch := (w.watch.next s).2 })

theorem next_of_ended {s : Store} {cancelled : Bool} {w : Stream} (h : (w.afterCancel cancelled).ended = true) :
    w.next s cancelled = (.ended, w.afterCancel cancelled) := by
  unfold next
  exact if_pos h

theorem next_of_open (s : Store) (k : Kind) (b : Cluster.Watch) :
    next s false ⟨k, b, false⟩ = (.ofWatch k (b.next s).1, ⟨k, (b.next s).2, false⟩) :=
  rfl

theorem take_zero (s : Store) (cancelled : Bool) (w : Stream) :
    w.take s cancelled 0 = ([], w.afterCancel cancelled) := by
  unfold take
  by_cases h : (w.afterCancel cancelled).ended = true
  · simp only [h, if_true]
  · simp only [if_neg h]
    rfl

/-- What is taken from a stream is what reads of it give, one after the other, up to the first that gives no item. -/
theorem take_succ (s : Store) (cancelled : Bool) (n : Nat) (w : Stream) : w.take s cancelled (n + 1) =
    match w.next s cancelled with
    | (.item i, w') => (i :: (w'.take s cancelled n).1, (w'.take s cancelled n).2)
    | (.waiting, w') | (.ended, w') => ([], w') := by
  unfold take
  by_cases h : (w.afterCancel cancelled).ended = true
  · rw [next_of_ended h]
    simp only [h, if_true]
  · -- a stream that goes on has not ended before, and its call is not cancelled
    obtain ⟨k, b, ended⟩ := w
    obtain ⟨rfl, rfl⟩ : ended = false ∧ cancelled = false := by simpa [afterCancel] using h
    rw [next_of_open]
    simp only [afterCancel, Bool.or_false, Bool.false_eq_true, if_false, Cluster.Watch.take]
    rcases b.next s with ⟨_ | i, b'⟩ <;> rfl

end Stream

/-! ## Sessions -/

/-- What may happen while a stream is open: a call on the cluster, a request through a gate, a read of the stream, or
the cancellation of the call that opened it. -/
inductive Move where
  | call (fresh : Fresh) (x : Cluster.Call)
  | request (c : Client) (call : Call) (k : Kind) (q : Request)
  | read
  | cancel

namespace Move

/-- What the cluster sees of it. -/
def onCluster : Move → List Cluster.Move
  | call fresh x => [.call fresh x]
  | request c x k q => ((c.delegated? x k q).map fun r => .call x.fresh (.operation r.1 r.2)).toList
  | read => [.read]
  | cancel => []

/-- The reviews that it is decided by. -/
def reviews : Move → List Review
  | request c x k q => ((c.descriptor? k q).map fun d => (c.authorize x (operationOf d q)).reviews).getD []
  | call .. | read | cancel => []

def isRead : Move → Bool
  | read => true
  | call .. | request .. | cancel => false

end Move

/-- The reviews of the decision that a reply was gated by. -/
def Reply.reviews (r : Reply) : List Review :=
  (r.decision.map Decision.reviews).getD []

/-- A cluster, a stream on it, whether the call that opened it is cancelled, what the reads of it came to, and what the
reviewers were asked. -/
structure Session where
  store : Store
  stream : Stream
  cancelled : Bool := false
  readings : List Reading := []
  asked : List Review := []

namespace Session

def step (c : Session) : Move → Session
  | .call fresh x => { c with store := (c.store.answer fresh x).2 }
  | .request g x k q =>
    let r := g.perform x k c.store q
    { c with store := r.store, asked := c.asked ++ r.reviews }
  | .read =>
    let r := c.stream.next c.store c.cancelled
    { c with stream := r.2, readings := c.readings ++ [r.1] }
  | .cancel => { c with cancelled := true }

def run (c : Session) (ms : List Move) : Session :=
  ms.foldl step c

/-- The session that begins with a reply to a watch. -/
def opened (r : Reply) (w : Stream) : Session :=
  { store := r.store, stream := w, asked := r.reviews }

variable {c : Session} {b : Cluster.Session} {k : Kind}

theorem run_append (c : Session) (ms ms' : List Move) : c.run (ms ++ ms') = (c.run ms).run ms' :=
  List.foldl_append

/-! ### What is asked -/

/-- Reviews are those of the requests that are made; the stream adds none. -/
theorem asked_step (c : Session) (m : Move) : (c.step m).asked = c.asked ++ m.reviews := by
  cases m with
  | request g x k q =>
    show c.asked ++ (g.perform x k c.store q).reviews = c.asked ++ _
    rw [Reply.reviews, perform_decision, Option.map_map]
    rfl
  | call | read | cancel => exact (List.append_nil _).symm

theorem asked_run (c : Session) (ms : List Move) : (c.run ms).asked = c.asked ++ ms.flatMap Move.reviews := by
  induction ms generalizing c with
  | nil => exact (List.append_nil _).symm
  | cons m ms ih =>
    show ((c.step m).run ms).asked = _
    rw [ih, asked_step, List.flatMap_cons, List.append_assoc]

/-! ### Before the cancellation -/

/-- Whether a session is where one of the cluster's watch is. -/
structure Mirrors (c : Session) (k : Kind) (b : Cluster.Session) : Prop where
  store : c.store = b.store
  stream : c.stream = ⟨k, b.watch, false⟩
  going : c.cancelled = false

/-- What is no cancellation moves both in the same way, and a read of the stream is one of the watch. -/
theorem Mirrors.step (h : c.Mirrors k b) {m : Move} (hm : m ≠ .cancel) :
    (c.step m).Mirrors k (b.run m.onCluster) ∧
      (c.step m).readings = c.readings ++ (b.reads m.onCluster).map (.ofWatch k) := by
  obtain ⟨hstore, hstream, hgoing⟩ := h
  cases m with
  | call fresh x =>
    refine ⟨⟨?_, hstream, hgoing⟩, (List.append_nil _).symm⟩
    show (c.store.answer fresh x).2 = (b.store.answer fresh x).2
    rw [hstore]
  | request g x k' q =>
    -- what is not let through leaves the cluster alone, and anything else is one call on it
    cases hd : g.delegated? x k' q with
    | none =>
      have hnone : (Move.request g x k' q).onCluster = [] := by simp [Move.onCluster, hd]
      rw [hnone]
      refine ⟨⟨?_, hstream, hgoing⟩, (List.append_nil _).symm⟩
      show (g.perform x k' c.store q).store = b.store
      rw [perform_undelegated hd c.store c.store, hstore]
    | some r =>
      have hsome : (Move.request g x k' q).onCluster = [.call x.fresh (.operation r.1 r.2)] := by
        simp [Move.onCluster, hd]
      rw [hsome]
      refine ⟨⟨?_, hstream, hgoing⟩, (List.append_nil _).symm⟩
      show (g.perform x k' c.store q).store = (b.store.perform x.fresh r.1 r.2).2
      rw [(perform_delegated hd c.store).2, hstore]
  | read =>
    have hnext : c.stream.next c.store c.cancelled =
        (.ofWatch k (b.watch.next b.store).1, ⟨k, (b.watch.next b.store).2, false⟩) := by
      rw [hstore, hstream, hgoing, Stream.next_of_open]
    exact ⟨⟨hstore, congrArg Prod.snd hnext, hgoing⟩, congrArg (c.readings ++ [·]) (congrArg Prod.fst hnext)⟩
  | cancel => exact absurd rfl hm

theorem Mirrors.run (h : c.Mirrors k b) (ms : List Move) (hms : .cancel ∉ ms) :
    (c.run ms).Mirrors k (b.run (ms.flatMap Move.onCluster)) ∧
      (c.run ms).readings = c.readings ++ (b.reads (ms.flatMap Move.onCluster)).map (.ofWatch k) := by
  induction ms generalizing c b with
  | nil => exact ⟨h, (List.append_nil _).symm⟩
  | cons m ms ih =>
    obtain ⟨hm, hms⟩ := not_or.1 (mt List.mem_cons.2 hms)
    obtain ⟨hstep, hread⟩ := h.step (Ne.symm hm)
    obtain ⟨hrun, hreads⟩ := ih hstep hms
    rw [List.flatMap_cons, Cluster.Session.run_append, Cluster.Session.reads_append, List.map_append]
    refine ⟨hrun, ?_⟩
    show ((c.step m).run ms).readings = _
    rw [hreads, hread, List.append_assoc]

/-! ### From the cancellation on -/

/-- Once the call is cancelled it stays so, and a read says that the stream is over. -/
theorem step_of_cancelled (h : c.cancelled = true) (m : Move) : (c.step m).cancelled = true ∧
    (c.step m).readings = c.readings ++ List.replicate ([m].countP Move.isRead) .ended := by
  cases m with
  | read =>
    refine ⟨h, ?_⟩
    have hended : (c.stream.afterCancel c.cancelled).ended = true := by simp [Stream.afterCancel, h]
    show c.readings ++ [(c.stream.next c.store c.cancelled).1] = _
    rw [Stream.next_of_ended hended]
    rfl
  | call | request => exact ⟨h, (List.append_nil _).symm⟩
  | cancel => exact ⟨rfl, (List.append_nil _).symm⟩

theorem readings_run_of_cancelled (h : c.cancelled = true) (ms : List Move) :
    (c.run ms).readings = c.readings ++ List.replicate (ms.countP Move.isRead) .ended := by
  induction ms generalizing c with
  | nil => exact (List.append_nil _).symm
  | cons m ms ih =>
    obtain ⟨hcancelled, hread⟩ := step_of_cancelled h m
    show ((c.step m).run ms).readings = _
    rw [ih hcancelled, hread, List.append_assoc, List.replicate_append_replicate, ← List.countP_append]
    rfl

end Session

/-! ## From the opening on -/

variable {d : Descriptor} {g : Grant} {terms : Cluster.Selector}

/-- A watch that is let through, with a selector that can be read, opens a stream. Whatever follows, in whatever order,
nothing is reviewed but what was reviewed when it was opened, and for other requests. Until the call is cancelled, the
reads of the stream come one for one to what reads of the cluster's watch give, as typed items: an object that cannot
be read as one of the kind is an error, and the stream goes on after it. From the cancellation on every read says that
the stream is over, whatever is unread. -/
theorem stream_until_cancelled (c : Client) (call : Call) (k : Kind) (ns version : String) (sel : Selection)
    (hd : c.descriptor? k (.watch ns sel version) = some d)
    (hg : (c.authorize call (operationOf d (.watch ns sel version))).verdict = .granted g)
    (hsel : sel.selector = .ok terms) (s : Store) :
    let r := c.perform call k s (.watch ns sel version)
    let t := target d (.watch ns sel version)
    ∃ w, (s.watch t sel version).1 = .ok w ∧ r.outcome = .ok (.stream ⟨k, w, false⟩) ∧
      r.reviews = (c.authorize call (operationOf d (.watch ns sel version))).reviews ∧
      (∀ i x, Stream.typedItem k i = x ↔ Stream.TypedAs k i x) ∧
      let start := Session.opened r ⟨k, w, false⟩
      let b := Cluster.Session.opened s t sel version w
      ∀ before,
        (start.run before).asked = r.reviews ++ before.flatMap Move.reviews ∧
        (.cancel ∉ before →
          (start.run before).readings = (b.reads (before.flatMap Move.onCluster)).map (.ofWatch k) ∧
          (start.run before).readings.filterMap Reading.item? =
            (b.run (before.flatMap Move.onCluster)).given.map (Stream.typedItem k) ∧
          (start.run before).store = (b.run (before.flatMap Move.onCluster)).store) ∧
        ∀ after, (start.run (before ++ .cancel :: after)).readings =
          (start.run before).readings ++ List.replicate (after.countP Move.isRead) .ended := by
  intro r t
  -- the selector can be read, so the cluster opens the watch
  obtain ⟨w, hw⟩ : ∃ w, (s.watch t sel version).1 = .ok w := ⟨_, by rw [Cluster.Store.watch_eq s t hsel]⟩
  have hperform : r = ⟨.ok (.stream ⟨k, w, false⟩), c.authorize call (operationOf d (.watch ns sel version)),
      (s.watch t sel version).2⟩ := by
    have hrun : Request.run k call.fresh s t (.watch ns sel version) =
        (.ok (.stream ⟨k, w, false⟩), (s.watch t sel version).2) := by
      simp only [Request.run, Request.action?, Store.perform, Cluster.produce, hw]
      rfl
    show c.perform call k s (.watch ns sel version) = _
    rw [perform_of_granted hd hg, hrun]
    rfl
  have hmirrors : (Session.opened r ⟨k, w, false⟩).Mirrors k (Cluster.Session.opened s t sel version w) :=
    ⟨congrArg Reply.store hperform, rfl, rfl⟩
  have hreviews : r.reviews = (c.authorize call (operationOf d (.watch ns sel version))).reviews := by
    rw [hperform]
    rfl
  refine ⟨w, hw, by rw [hperform], hreviews, fun _ _ => Stream.typedItem_eq_iff, ?_⟩
  intro start b before
  refine ⟨Session.asked_run start before, ?mirrored, ?cancelled⟩
  case mirrored =>
    intro hgoing
    obtain ⟨hrun, hreads⟩ := hmirrors.run before hgoing
    refine ⟨hreads, ?_, hrun.store⟩
    rw [hreads, Cluster.Session.given_run]
    exact Reading.filterMap_item?_ofWatch k _
  case cancelled =>
    intro after
    rw [Session.run_append]
    exact Session.readings_run_of_cancelled (c := Session.step _ .cancel) rfl after

/-- A patch of a secret that gives it a number for its type, and one that gives it a text. -/
def retype (type : Json) : Move :=
  .call ⟨"u3", ""⟩ (.operation (.of ⟨"", "v1", "Secret", "secrets"⟩ (some "demo"))
    (.patch "creds" ⟨.merge, .obj [("type", type)]⟩))

/-- The secret that is there, as a typed one. -/
def typedSecret : Json :=
  .obj [("apiVersion", .str "v1"), ("kind", .str "Secret"), ("metadata", .obj
    [("name", .str "creds"), ("namespace", .str "demo"), ("resourceVersion", .str "1"), ("uid", .str "u1")])]

/-- A watch of secrets gives the one that is there, then an error for one that became unreadable. After that the call is
cancelled, and a later change is not given. -/
theorem cancelled_watch_over :
    let q : Request := .watch "demo" {} "0"
    let r := secretGate.perform (tokenCall .allowed) .secret oneSecret q
    let moves : List Move := [.read, retype (.int 5), .read, retype (.str "Opaque"), .cancel, .read, .read]
    ∃ w, r.outcome = .ok (.stream w) ∧
      ((Session.opened r w).run moves).asked = r.reviews ∧ r.reviews.length = 1 ∧
      ((Session.opened r w).run moves).readings =
        [.item (.ok (.change .added typedSecret)), .item (.error .conversion), .ended, .ended] := by
  intro q r moves
  have hd : secretGate.descriptor? .secret q = some ⟨"", "v1", "Secret", "secrets", ""⟩ := by decide
  have hg : (secretGate.authorize (tokenCall .allowed) (operationOf ⟨"", "v1", "Secret", "secrets", ""⟩ q)).verdict =
      .granted .caller := by decide
  have hsel : ({} : Selection).selector = .ok [] := rfl
  obtain ⟨w, hw, hopened, hreviews, -, hrun⟩ :=
    stream_until_cancelled secretGate (tokenCall .allowed) .secret "demo" "0" {} hd hg hsel oneSecret
  have hreviews' : r.reviews.length = 1 := by
    rw [hreviews]
    decide
  obtain ⟨-, hmirrored, hover⟩ := hrun [.read, retype (.int 5), .read, retype (.str "Opaque")]
  obtain ⟨hasked, -⟩ := hrun moves
  obtain ⟨hreadings, -⟩ := hmirrored (by simp [retype])
  refine ⟨_, hopened, by simpa [moves, retype, Move.reviews] using hasked, hreviews', ?_⟩
  have hmoves := hover [.read, .read]
  rw [hreadings] at hmoves
  cases hw
  exact hmoves

end Client

end AccessGate
