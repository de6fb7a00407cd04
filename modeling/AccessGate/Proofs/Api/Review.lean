/-
Reviews fail closed. Whatever an API server sends, and whatever keeps it from sending anything, a review
allows only if one was read whose status says so. Main statements: `allowed_only_by_review`, for a single
review and for the decisions that a reviewer of this kind is asked in, and `saysAllowed_of_allowed`, for the
text of the answer.
-/
import AccessGate.Api.Review
import AccessGate.Proofs.Client.Delegation
import AccessGate.Proofs.Decision.Cancellation
import AccessGate.Proofs.Decision.Reviews
import AccessGate.Proofs.Kind.Text

namespace AccessGate

/-- Whether all answers in a world are those of a reviewer. Others of its reviews may wait, or be cut short. -/
def World.AnswersFrom (w : World) (R : Reviewer) : Prop :=
  ∀ n a s y, w n a s = .answered y → R n a s = some y

theorem Reviewer.answersFrom_world (R : Reviewer) : R.world.AnswersFrom R := by
  intro n a s y h
  unfold Reviewer.world at h
  cases hR : R n a s with
  | none => rw [hR] at h; cases h
  | some x => rw [hR] at h; cases h; rfl

/-- Cancelling a call gives no new answers. -/
theorem Cancellation.answersFrom_world (m : Cancellation) (R : Reviewer) : (m.world R).AnswersFrom R := by
  intro n a s y h
  unfold Cancellation.world at h
  split at h
  · exact R.answersFrom_world n a s y h
  · split at h <;> cases h

namespace Api

open Cluster (ApiStatus)

/-! ## What an exchange yields -/

/-- Whether an exchange yields a review for a subject: an answer comes that does not refuse, and it can be read. -/
def Exchange.Yields (s : Subject) (x : Exchange) (review : Json) : Prop :=
  ∃ r, x = .answered r ∧ (r.status < 400 ∨ 600 ≤ r.status) ∧ review? s (arrived r) = some review

/-- Whether the API server refuses to review. -/
def Exchange.Refuses (x : Exchange) (e : ApiStatus) : Prop :=
  ∃ r, x = .answered r ∧ r.refusal? = some e

/-- Whether a review has a status, and the status says that its subject is allowed. -/
def Allows (review : Json) : Prop :=
  ∃ status, review.get? "status" = some status ∧ status.get? "allowed" = some (.bool true)

/-- The reason in the status of a review, empty if there is none. -/
def reasonIn (review : Json) : String :=
  ((review.get? "status").bind fun status => (status.get? "reason").bind Json.asString?).getD ""

variable {s : Subject} {x : Exchange} {review : Json} {e : ApiStatus}

/-- A server refuses with the statuses of the fourth and fifth hundred. -/
theorem refusal?_eq_none {r : Response} : r.refusal? = none ↔ r.status < 400 ∨ 600 ≤ r.status := by
  unfold Response.refusal? Response.isRefusal
  split
  · rename_i h
    simp only [Bool.and_eq_true, decide_eq_true_eq] at h
    simp only [reduceCtorEq, false_iff]
    omega
  · rename_i h
    simp only [Bool.and_eq_true, decide_eq_true_eq, not_and_or] at h
    simp only [true_iff]
    omega

theorem received_of_yields (h : x.Yields s review) : received s x = .review (statusOf review) := by
  obtain ⟨r, rfl, hr, hreview⟩ := h
  simp only [received, refusal?_eq_none.2 hr, hreview]

theorem received_of_refuses (h : x.Refuses e) : received s x = .refusal e := by
  obtain ⟨r, rfl, hr⟩ := h
  simp only [received, hr]

/-- An exchange yields a review, or a refusal, or it fails. -/
theorem received_cases (s : Subject) (x : Exchange) :
    (∃ review, x.Yields s review) ∨ (∃ e, x.Refuses e) ∨ ∃ m, received s x = .failure m := by
  cases x with
  | unconnected reason => exact .inr (.inr ⟨_, rfl⟩)
  | broken reason => exact .inr (.inr ⟨_, rfl⟩)
  | answered r =>
    cases hr : r.refusal? with
    | some e => exact .inr (.inl ⟨e, r, rfl, hr⟩)
    | none =>
      cases hreview : review? s (arrived r) with
      | some review => exact .inl ⟨review, r, rfl, refusal?_eq_none.1 hr, hreview⟩
      | none =>
        have hfailure : received s (.answered r) = .failure "unreadable review" := by
          simp only [received, hr, hreview]
        exact .inr (.inr ⟨_, hfailure⟩)

theorem asBool?_eq_some {j : Json} {b : Bool} : j.asBool? = some b ↔ j = .bool b := by
  cases j <;> simp [Json.asBool?]

/-- A review allows what it is about, or denies it with the reason in its status. -/
theorem verdict_statusOf (review : Json) :
    Allows review ∧ Received.verdict (statusOf review) = .allowed ∨
      ¬ Allows review ∧ Received.verdict (statusOf review) = .forbidden (reasonIn review) := by
  unfold Allows reasonIn statusOf Received.verdict
  cases hstatus : review.get? "status" with
  | none => exact .inr ⟨by simp, rfl⟩
  | some status =>
    by_cases hallowed : status.get? "allowed" = some (.bool true)
    · refine .inl ⟨⟨status, rfl, hallowed⟩, ?_⟩
      simp [hallowed, Json.asBool?]
    · -- what is missing or has another type counts as `false`
      have hfalse : ((status.get? "allowed").bind Json.asBool?).getD false = false := by
        rw [← Bool.not_eq_true]
        intro htrue
        obtain ⟨j, hj, hb⟩ := Option.bind_eq_some_iff.1 ((Option.getD_eq_iff.1 htrue).resolve_right (by simp))
        exact hallowed (by rw [hj, asBool?_eq_some.1 hb])
      refine .inr ⟨?_, ?_⟩
      · rintro ⟨status', ⟨⟩, h⟩
        exact hallowed h
      · simp [hfalse]

/-! ## Answers -/

/-- Whether an exchange denies its subject, and why: by a review that does not allow it, or because the server may
not be asked. -/
def Exchange.Denies (s : Subject) (x : Exchange) (reason : String) : Prop :=
  (∃ review, x.Yields s review ∧ ¬ Allows review ∧ reason = reasonIn review) ∨
    ∃ e, x.Refuses e ∧ e.code = 403 ∧ reason = e.message

theorem reviewAnswer_of_yields (h : x.Yields s review) :
    Allows review ∧ reviewAnswer s x = .allowed ∨
      ¬ Allows review ∧ reviewAnswer s x = .forbidden (reasonIn review) := by
  unfold reviewAnswer
  rw [received_of_yields h]
  exact verdict_statusOf review

theorem reviewAnswer_of_refuses (h : x.Refuses e) :
    reviewAnswer s x = if e.code = 403 then .forbidden e.message else .failed e.text := by
  unfold reviewAnswer
  rw [received_of_refuses h]
  rfl

theorem reviewAnswer_eq_allowed : reviewAnswer s x = .allowed ↔ ∃ review, x.Yields s review ∧ Allows review := by
  constructor
  · intro h
    rcases received_cases s x with ⟨review, hyields⟩ | ⟨e, hrefuses⟩ | ⟨m, hm⟩
    · rcases reviewAnswer_of_yields hyields with ⟨hallows, -⟩ | ⟨-, hdenied⟩
      · exact ⟨review, hyields, hallows⟩
      · rw [hdenied] at h
        cases h
    · rw [reviewAnswer_of_refuses hrefuses] at h
      split at h <;> cases h
    · rw [reviewAnswer, hm] at h
      cases h
  · rintro ⟨review, hyields, hallows⟩
    rcases reviewAnswer_of_yields hyields with ⟨-, hallowed⟩ | ⟨hnot, -⟩
    · exact hallowed
    · exact absurd hallows hnot

theorem reviewAnswer_eq_forbidden {reason : String} :
    reviewAnswer s x = .forbidden reason ↔ x.Denies s reason := by
  constructor
  · intro h
    rcases received_cases s x with ⟨review, hyields⟩ | ⟨e, hrefuses⟩ | ⟨m, hm⟩
    · rcases reviewAnswer_of_yields hyields with ⟨-, hallowed⟩ | ⟨hnot, hdenied⟩
      · rw [hallowed] at h
        cases h
      · rw [hdenied] at h
        cases h
        exact .inl ⟨review, hyields, hnot, rfl⟩
    · rw [reviewAnswer_of_refuses hrefuses] at h
      split at h
      · rename_i hcode
        cases h
        exact .inr ⟨e, hrefuses, hcode, rfl⟩
      · cases h
    · rw [reviewAnswer, hm] at h
      cases h
  · rintro (⟨review, hyields, hnot, rfl⟩ | ⟨e, hrefuses, hcode, rfl⟩)
    · rcases reviewAnswer_of_yields hyields with ⟨hallows, -⟩ | ⟨-, hdenied⟩
      · exact absurd hallows hnot
      · exact hdenied
    · rw [reviewAnswer_of_refuses hrefuses, if_pos hcode]

/-- What neither yields a review nor says that the server may not be asked is a failure. -/
theorem reviewAnswer_eq_failed : (∃ m, reviewAnswer s x = .failed m) ↔
    (∀ review, ¬ x.Yields s review) ∧ ∀ e, x.Refuses e → e.code ≠ 403 := by
  constructor
  · rintro ⟨m, h⟩
    constructor
    · intro review hyields
      rcases reviewAnswer_of_yields hyields with ⟨-, hx⟩ | ⟨-, hx⟩
      all_goals
        rw [hx] at h
        cases h
    · intro e hrefuses hcode
      rw [reviewAnswer_of_refuses hrefuses, if_pos hcode] at h
      cases h
  · rintro ⟨hyields, hrefuses⟩
    rcases received_cases s x with ⟨review, hreview⟩ | ⟨e, he⟩ | ⟨m, hm⟩
    · exact absurd hreview (hyields review)
    · exact ⟨e.text, by rw [reviewAnswer_of_refuses he, if_neg (hrefuses e he)]⟩
    · exact ⟨m, by rw [reviewAnswer, hm]; rfl⟩

/-! ## Texts -/

/-- The text of an answer, as a draft. -/
def Response.draft (r : Response) : Json.Draft :=
  (Json.draft (2 * r.body.toList.length + 2) r.body.toList).1

/-- Whether the text of an answer has a member `status` that has a member `allowed`, which is `true`. -/
def Response.SaysAllowed (r : Response) : Prop :=
  ∃ status passed, r.draft.Has "status" status ∧ status.Has "allowed" (.scalar (.ok (.bool true)) passed)

theorem scalar_of_flag {depth : Nat} {d : Json.Draft} {b : Bool} (h : Shape.flag.ofDraft depth d = .ok (.bool b)) :
    ∃ passed, d = .scalar (.ok (.bool b)) passed := by
  cases d with
  | scalar value passed =>
    unfold Shape.ofDraft at h
    obtain ⟨j, rfl, h⟩ := bind_eq_ok.1 h
    cases j with
    | bool b' =>
      cases h
      exact ⟨passed, rfl⟩
    | _ => cases h
  | list items passed => cases depth <;> cases h
  | object members passed => cases depth <;> cases h

/-- The zero value of no field of a status allows anything: what is read as allowed is said to be. -/
theorem saysAllowed_of_allows {r : Response} (h : review? s r = some review) (ha : Allows review) : r.SaysAllowed := by
  have hread : (reviewDocument s).documentShape.ofDraft Json.maxDepth r.draft = .ok review := by
    unfold review? Response.read? at h
    cases hr : Json.readText ((reviewDocument s).documentShape.ofDraft Json.maxDepth) r.body with
    | error f =>
      rw [hr] at h
      cases h
    | ok j =>
      rw [hr] at h
      cases h
      exact Json.readText_eq_ok hr
  obtain ⟨status, hstatus, hallowed⟩ := ha
  have hplain : r.draft.Plain := (Json.plain_draft _).1 _
  rcases Shape.said_of_ofDraft hplain hread hstatus with ⟨p, shape, m, depth, hfield, hm, hmplain, hmread⟩ | hzero
  · obtain ⟨-, rfl⟩ : p = .optional ∧ shape = statusShape := by
      simpa [Shape.req, Shape.opt, Shape.tag] using hfield
    rcases Shape.said_of_ofDraft hmplain hmread hallowed with ⟨p, shape, m', depth, hfield, hm', -, hflag⟩ | hzero
    · obtain ⟨-, rfl⟩ : p = .filled ∧ shape = .flag := by
        simpa [Shape.req, Shape.opt] using hfield
      obtain ⟨passed, rfl⟩ := scalar_of_flag hflag
      exact ⟨m, passed, hm, hm'⟩
    · -- the zero value of a flag is `false`
      obtain ⟨p, shape, hfield, -, hzero⟩ := hzero
      obtain ⟨-, rfl⟩ : p = .filled ∧ shape = .flag := by
        simpa [Shape.req, Shape.opt] using hfield
      cases hzero
  · -- a status that the text leaves out is left out
    obtain ⟨p, shape, hfield, hp, -⟩ := hzero
    obtain ⟨rfl, -⟩ : p = .optional ∧ shape = statusShape := by
      simpa [Shape.req, Shape.opt, Shape.tag] using hfield
    exact absurd rfl hp

/-- Only a text that says so allows anything. -/
theorem saysAllowed_of_allowed (h : reviewAnswer s x = .allowed) : ∃ r, x = .answered r ∧ r.SaysAllowed := by
  obtain ⟨review, ⟨r, rfl, -, hreview⟩, hallows⟩ := reviewAnswer_eq_allowed.1 h
  have hsays := saysAllowed_of_allows hreview hallows
  refine ⟨r, rfl, ?_⟩
  unfold arrived at hsays
  split at hsays
  · exact hsays
  · -- an answer without a body says nothing
    obtain ⟨status, passed, ⟨members, passed', key, hobject, -⟩, -⟩ := hsays
    cases hobject

/-! ## Decisions -/

/-- An answer of the API server that allows, among the reviews of a decision. -/
theorem exists_allows_of_granted {c : Connection} {network : Nat → Request → Option Exchange} {names : List String}
    {w : World} (hw : w.AnswersFrom (reviewer c network)) {i : Identity} (hi : i.isAdmin = false) {o : Operation}
    {g : Grant} (h : (Decision.make (globalNamespaces names) w (some i) o).verdict = .granted g) :
    ∃ n s x review, ((Decision.make (globalNamespaces names) w (some i) o).reviews.map Review.subject)[n]? = some s ∧
      s ∈ searchedSubjects names i o.key.ns ∧ network n (reviewRequest c o.attributes s) = some x ∧
      x.Yields s review ∧ Allows review := by
  have hadmin : ∀ i', some i = some i' → i'.isAdmin = false := by
    rintro i' ⟨⟩
    exact hi
  obtain ⟨r, hr, hfate, -⟩ := Decision.make_allowed hadmin h
  obtain ⟨n, hn⟩ := List.mem_iff_getElem?.1 hr
  obtain ⟨horder, hfates⟩ := Decision.asks_make names w hi o
  -- the review has the place in the decision that its request has on the network
  have hworld : w n o.attributes r.subject = .answered .allowed := by
    have hf := (hfates n r hn).2
    rw [hfate, Nat.zero_add] at hf
    exact hf.symm
  obtain ⟨x, hx, hanswer⟩ := Option.map_eq_some_iff.1 (hw _ _ _ _ hworld)
  obtain ⟨review, hyields, hallows⟩ := reviewAnswer_eq_allowed.1 hanswer
  have hsubject : r.subject ∈ searchedSubjects names i o.key.ns :=
    horder.subset (List.mem_map.2 ⟨r, hr, rfl⟩)
  exact ⟨n, r.subject, x, review, by rw [List.getElem?_map, hn]; rfl, hsubject, hx, hyields, hallows⟩

/-- A review allows exactly if the exchange yields one with a status that says so. It denies exactly if the exchange
yields one with another status or none, for the reason given there, or if the server refuses to be asked; it fails in
all other cases. So a decision in which the API server is asked, for a caller who is no administrator and however the
decision is cut short, grants nothing unless a review for one of the searched subjects came and said that it is
allowed. -/
theorem allowed_only_by_review (c : Connection) (network : Nat → Request → Option Exchange) :
    (∀ s x, (reviewAnswer s x = .allowed ↔ ∃ review, x.Yields s review ∧ Allows review) ∧
      (∀ reason, reviewAnswer s x = .forbidden reason ↔
        (∃ review, x.Yields s review ∧ ¬ Allows review ∧ reason = reasonIn review) ∨
          ∃ e, x.Refuses e ∧ e.code = 403 ∧ reason = e.message) ∧
      ((∃ m, reviewAnswer s x = .failed m) ↔
        (∀ review, ¬ x.Yields s review) ∧ ∀ e, x.Refuses e → e.code ≠ 403)) ∧
    ∀ (names : List String) (w : World) (caller : Option Identity) (o : Operation) (g : Grant),
      w.AnswersFrom (reviewer c network) → (∀ i, caller = some i → i.isAdmin = false) →
      (Decision.make (globalNamespaces names) w caller o).verdict = .granted g →
      ∃ i, caller = some i ∧ ∃ n s x review,
        ((Decision.make (globalNamespaces names) w caller o).reviews.map Review.subject)[n]? = some s ∧
        s ∈ searchedSubjects names i o.key.ns ∧ network n (reviewRequest c o.attributes s) = some x ∧
        x.Yields s review ∧ Allows review := by
  constructor
  · intro s x
    exact ⟨reviewAnswer_eq_allowed, fun reason => reviewAnswer_eq_forbidden, reviewAnswer_eq_failed⟩
  · intro names w caller o g hw hc h
    cases caller with
    | none => cases h
    | some i => exact ⟨i, rfl, exists_allows_of_granted hw (hc i rfl) h⟩

/-- Answers the first request with a review that has no status, refuses other requests with the platform's
credentials, and allows the caller's own. -/
def sampleNetwork : Nat → Request → Option Exchange := fun n q =>
  if n = 0 then some (.answered ⟨201, "\x7b\"metadata\":\x7b\x7d,\"spec\":\x7b\x7d\x7d"⟩)
  else if q.authorization = some "Bearer alice-token" then
    some (.answered ⟨201, "\x7b\"metadata\":\x7b\x7d,\"spec\":\x7b\x7d,\"status\":\x7b\"allowed\":true\x7d\x7d"⟩)
  else some (.answered ⟨403, "\x7b\"status\":\"Failure\",\"message\":\"no\",\"code\":403\x7d"⟩)

/-- Two accounts are denied, by a review without a status and by a refusal, and the caller is allowed; the call is
cancelled only after that. -/
theorem caller_allowed_by_review :
    let c : Connection := ⟨"https://127.0.0.1:6443", .ofToken "platform-token"⟩
    let w := (Cancellation.mk 3 false).world (reviewer c sampleNetwork)
    let d := Decision.make (globalNamespaces ["shared"]) w (some sampleCaller) sampleOperation
    d.verdict = .granted .caller ∧ w.AnswersFrom (reviewer c sampleNetwork) ∧
    (∀ i, some sampleCaller = some i → i.isAdmin = false) ∧
    ∃ n s x review, (d.reviews.map Review.subject)[n]? = some s ∧
      s ∈ searchedSubjects ["shared"] sampleCaller sampleOperation.key.ns ∧
      sampleNetwork n (reviewRequest c sampleOperation.attributes s) = some x ∧ x.Yields s review ∧ Allows review := by
  intro c w d
  have hverdict : d.verdict = .granted .caller := by decide +kernel
  have hc : ∀ i, some sampleCaller = some i → i.isAdmin = false := by
    rintro i ⟨⟩
    rfl
  have hw : w.AnswersFrom (reviewer c sampleNetwork) := Cancellation.answersFrom_world _ _
  obtain ⟨i, ⟨⟩, h⟩ := (allowed_only_by_review c sampleNetwork).2 ["shared"] w (some sampleCaller) sampleOperation
    .caller hw hc hverdict
  exact ⟨hverdict, hw, hc, h⟩

end Api

end AccessGate
