/-
Cancelling a decision. A call may be cancelled before it starts, between two reviews, or while a
review waits for its answer. Main statement: from that moment on nothing more is asked, the decision
is refused, and it is refused as cancelled if another answer was needed (`cancelled_never_granted`).

The proof compares the cancelled search with the uncancelled one, account by account: up to the
moment the two are the same, and the first review after it ends the cancelled one.
-/
import AccessGate.Proofs.Decision.Rules

namespace AccessGate

/-! ## Moments -/

/-- A moment at which a call is cancelled: after so many answers, either while the next question waits
for its answer or before it is put. -/
structure Cancellation where
  answered : Nat
  inFlight : Bool
deriving DecidableEq, Repr

namespace Review

/-- What is asked, and for whom. -/
def question (r : Review) : Subject × Attributes :=
  (r.subject, r.attributes)

/-- Whether the decision goes on after the review: an account was denied. -/
def LeavesOpen (r : Review) : Prop :=
  ∃ sa reason, r.subject = .serviceAccount sa ∧ r.fate = .answered (.forbidden reason)

end Review

namespace Cancellation

/-- How many questions were put by then. -/
def started (m : Cancellation) : Nat :=
  if m.inFlight then m.answered + 1 else m.answered

/-- The reviews of a call that is cancelled at the moment: answers that came stay, the question that
waits is given up, and no other is put. -/
def world (m : Cancellation) (R : Reviewer) : World := fun n a s =>
  if n < m.answered then R.world n a s else if n < m.started then .interrupted else .unasked

/-- Whether the moment lies before the end of an uncancelled decision, seen from its n-th review on:
the questions that were put by then are among its own, and no answer settled it. -/
structure PrecedesFrom (m : Cancellation) (n : Nat) (d : Decision) : Prop where
  reached : m.started - n ≤ d.reviews.length
  unsettled : ∀ r ∈ d.reviews.take (m.answered - n), r.LeavesOpen

/-- Whether the moment lies before the end of an uncancelled decision. -/
def Precedes (m : Cancellation) (d : Decision) : Prop :=
  m.PrecedesFrom 0 d

/-- How a decision is cut short at the moment, both seen from their n-th review on. -/
structure CutFrom (m : Cancellation) (n : Nat) (d cut : Decision) : Prop where
  asked : (cut.reviews.filter Review.wasAsked).map Review.question =
    (d.reviews.take (m.started - n)).map Review.question
  cancelled : m.answered - n < d.reviews.length → cut.verdict = .refused .cancelled
  kept : m.answered - n = d.reviews.length → cut.verdict = d.verdict

theorem answered_le_started (m : Cancellation) : m.answered ≤ m.started := by
  unfold started; split <;> omega

theorem world_before {m : Cancellation} {n : Nat} (h : n < m.answered) (R : Reviewer) (a : Attributes)
    (s : Subject) : m.world R n a s = R.world n a s := by
  unfold world; rw [if_pos h]

/-- The first review after the moment is given up or not put at all. -/
theorem world_answered (m : Cancellation) (R : Reviewer) (a : Attributes) (s : Subject) :
    m.world R m.answered a s = if m.inFlight then .interrupted else .unasked := by
  unfold world started
  rw [if_neg (Nat.lt_irrefl _)]
  cases m.inFlight <;> simp

/-! ## One review -/

/-- A review that was answered before the moment is the same in both decisions. -/
theorem CutFrom.after {m : Cancellation} {n : Nat} {d cut : Decision} {r : Review} (hn : n < m.answered)
    (hr : r.wasAsked = true) (h : m.CutFrom (n + 1) d cut) : m.CutFrom n (d.after r) (cut.after r) := by
  have hs : m.started - n = m.started - (n + 1) + 1 := by have := m.answered_le_started; omega
  refine ⟨?_, fun hlt => h.cancelled ?_, fun heq => h.kept ?_⟩
  · simp only [Decision.after, List.filter_cons, hr, if_true, hs, List.take_succ_cons, List.map_cons, h.asked]
  · simp only [Decision.after, List.length_cons] at hlt; omega
  · simp only [Decision.after, List.length_cons] at heq; omega

/-- The first review after the moment ends the decision as cancelled, whatever would have come of it. -/
theorem CutFrom.first {m : Cancellation} {d : Decision} {r r' : Review} {rest : List Review}
    (hd : d.reviews = r :: rest) (hq : r'.question = r.question)
    (hf : r'.fate = if m.inFlight then .interrupted else .unasked) :
    m.CutFrom m.answered d ⟨.refused .cancelled, [r']⟩ := by
  refine ⟨?_, fun _ => rfl, fun h => ?_⟩
  · rw [hd]
    unfold started
    cases hi : m.inFlight <;> simp [hi, Review.wasAsked, hf, hq]
  · rw [hd, List.length_cons] at h; omega

/-! ## The whole search -/

theorem PrecedesFrom.head {m : Cancellation} {n : Nat} {d : Decision} {r : Review} {rest : List Review}
    (h : m.PrecedesFrom n d) (hn : n < m.answered) (hd : d.reviews = r :: rest) : r.LeavesOpen := by
  apply h.unsettled
  rw [hd, show m.answered - n = m.answered - n - 1 + 1 by omega, List.take_succ_cons]
  exact List.mem_cons_self ..

theorem PrecedesFrom.tail {m : Cancellation} {n : Nat} {d : Decision} {r : Review} (hn : n < m.answered)
    (h : m.PrecedesFrom n (d.after r)) : m.PrecedesFrom (n + 1) d := by
  have hs := m.answered_le_started
  refine ⟨?_, fun x hx => h.unsettled x ?_⟩
  · have := h.reached
    simp only [Decision.after, List.length_cons] at this; omega
  · rw [show m.answered - n = m.answered - (n + 1) + 1 by omega]
    exact List.mem_cons_of_mem _ hx

variable {m : Cancellation} {R : Reviewer} {o : Operation} {token : String}

theorem tryToken_cut {n : Nat} (hn : n ≤ m.answered)
    (h : m.PrecedesFrom n (Decision.tryToken R.world o token n)) :
    m.CutFrom n (Decision.tryToken R.world o token n) (Decision.tryToken (m.world R) o token n) := by
  by_cases ht : token = ""
  · -- nothing is asked, so the moment can only be the end of the search
    have h0 := h.reached
    have hs := m.answered_le_started
    simp only [Decision.tryToken, if_pos ht, List.length_nil] at h0 ⊢
    exact ⟨by simp, fun hlt => absurd hlt (by simp), fun _ => rfl⟩
  · have hd : (Decision.tryToken R.world o token n).reviews =
        [⟨.bearer token, o.attributes, R.world n o.attributes (.bearer token)⟩] := by
      rw [tryToken_eq ht]; rfl
    have hm : n = m.answered := by
      by_contra hne
      obtain ⟨sa, _, hs, _⟩ := h.head (by omega) hd
      cases hs
    subst hm
    have hw := world_answered m R o.attributes (.bearer token)
    rw [show Decision.tryToken (m.world R) o token m.answered = ⟨.refused .cancelled,
        [⟨.bearer token, o.attributes, m.world R m.answered o.attributes (.bearer token)⟩]⟩ by
      unfold Decision.tryToken
      rw [if_neg ht, hw]
      cases m.inFlight <;> rfl]
    exact CutFrom.first hd rfl hw

/-- A search with an account left to try begins with the review of that account. -/
theorem tryAccounts_reviews (w : World) (a : Attributes) (otherwise : Nat → Decision) (n : Nat)
    (sa : ServiceAccount) (l : List ServiceAccount) :
    ∃ rest, (Decision.tryAccounts w a otherwise n (sa :: l)).reviews =
      ⟨.serviceAccount sa, a, w n a (.serviceAccount sa)⟩ :: rest := by
  rw [Decision.tryAccounts]
  rcases w n a (.serviceAccount sa) with (_ | reason | m) | _ | _ | _ <;> exact ⟨_, rfl⟩

/-- Induction on the accounts still to be tried; the moment has not passed before the first of them. -/
theorem tryAccounts_cut : ∀ (l : List ServiceAccount) (n : Nat), n ≤ m.answered →
    m.PrecedesFrom n (Decision.tryAccounts R.world o.attributes (Decision.tryToken R.world o token) n l) →
    m.CutFrom n (Decision.tryAccounts R.world o.attributes (Decision.tryToken R.world o token) n l)
      (Decision.tryAccounts (m.world R) o.attributes (Decision.tryToken (m.world R) o token) n l)
  | [], n, hn, h => tryToken_cut hn h
  | sa :: l, n, hn, h => by
    obtain ⟨rest, hd⟩ := tryAccounts_reviews R.world o.attributes (Decision.tryToken R.world o token) n sa l
    rcases Nat.lt_or_eq_of_le hn with hlt | rfl
    · -- before the moment both decisions pass the account over
      obtain ⟨_, reason, _, hw⟩ := h.head hlt hd
      simp only at hw
      simp only [Decision.tryAccounts, world_before hlt, hw] at h ⊢
      exact (tryAccounts_cut l (n + 1) hlt (h.tail hlt)).after hlt rfl
    · have hw := world_answered m R o.attributes (.serviceAccount sa)
      rw [show Decision.tryAccounts (m.world R) o.attributes (Decision.tryToken (m.world R) o token)
          m.answered (sa :: l) = ⟨.refused .cancelled,
            [⟨.serviceAccount sa, o.attributes, m.world R m.answered o.attributes (.serviceAccount sa)⟩]⟩ by
        rw [Decision.tryAccounts, hw]
        cases m.inFlight <;> rfl]
      exact CutFrom.first hd rfl hw

/-- A decision for a caller who is no administrator is cut short at every moment before its end. -/
theorem make_cut {names : List String} {caller : Option Identity} (hc : ∀ i, caller = some i → i.isAdmin = false)
    (hm : m.Precedes (Decision.make (globalNamespaces names) R.world caller o)) :
    m.CutFrom 0 (Decision.make (globalNamespaces names) R.world caller o)
      (Decision.make (globalNamespaces names) (m.world R) caller o) := by
  rcases caller with _ | i
  · exact ⟨by simp [Decision.make], fun h => absurd h (by simp [Decision.make]), fun _ => rfl⟩
  · unfold Precedes at hm
    simp only [Decision.make, hc i rfl, Bool.false_eq_true, if_false] at hm ⊢
    exact tryAccounts_cut _ 0 (Nat.zero_le _) hm

/-- A decision that leaves every answer open has no caller, or has tried all accounts and has no token. -/
theorem refused_of_unsettled {names : List String} {caller : Option Identity} {d : Decision}
    (h : Decided R names o caller d) (hc : ∀ i, caller = some i → i.isAdmin = false)
    (hr : ∀ r ∈ d.reviews, r.LeavesOpen) :
    (caller = none ∧ d.verdict = .refused .notAllowed) ∨
    ∃ i, caller = some i ∧ i.token = "" ∧
      d.reviews.map Review.subject = (searched names i o.key.ns).map .serviceAccount ∧
      d.verdict = .refused (o.forbidden "no bearer token to review") := by
  cases h with
  | nobody => exact .inl ⟨rfl, rfl⟩
  | admin admin => rw [hc _ rfl] at admin; cases admin
  | @account i tried rest sa ordinary order denied last =>
    -- the last review did not deny its account
    obtain ⟨_, reason, _, hf⟩ := hr (R.review o.asked (sa, tried.length)) (by simp [List.zipIdx_append])
    refine absurd ⟨reason, ?_⟩ last
    rcases hx : R tried.length o.asked (.serviceAccount sa) with _ | x
    all_goals simp_all [Reviewer.review, Fate.ofAnswer]
  | noToken ordinary denied token =>
    refine .inr ⟨_, rfl, token, ?_, rfl⟩
    rw [List.map_map, show Review.subject ∘ R.review o.asked = Subject.serviceAccount ∘ Prod.fst from rfl,
      ← List.map_map, List.zipIdx_map_fst]
  | token ordinary denied token =>
    obtain ⟨_, _, hs, _⟩ := hr _ (List.mem_append_right _ (List.mem_singleton_self _))
    cases hs

end Cancellation

/-- A call without a caller or for one who is no administrator, cancelled at any moment before its
decision is complete: no question is put that was not put by then, and the decision is a refusal. It is
refused as cancelled if it still needed an answer; if it needed none, because there is no caller, or no
account left to try and no token, it is refused as it would have been anyway. -/
theorem cancelled_never_granted (R : Reviewer) (names : List String) (o : Operation) (caller : Option Identity)
    (m : Cancellation) (hc : ∀ i, caller = some i → i.isAdmin = false)
    (hm : m.Precedes (Decision.make (globalNamespaces names) R.world caller o)) :
    let d := Decision.make (globalNamespaces names) R.world caller o
    let cut := Decision.make (globalNamespaces names) (m.world R) caller o
    (cut.reviews.filter Review.wasAsked).map Review.question = (d.reviews.take m.started).map Review.question ∧
    (∃ e, cut.verdict = .refused e) ∧
    (m.answered < d.reviews.length → cut.verdict = .refused .cancelled) ∧
    (m.answered = d.reviews.length → cut.verdict = d.verdict ∧
      ((caller = none ∧ d.verdict = .refused .notAllowed) ∨
      ∃ i, caller = some i ∧ i.token = "" ∧
        d.reviews.map Review.subject = (searched names i o.key.ns).map .serviceAccount ∧
        d.verdict = .refused (o.forbidden "no bearer token to review"))) := by
  intro d cut
  obtain ⟨hasked, hcancelled, hkept⟩ := Cancellation.make_cut hc hm
  have hle : m.answered ≤ d.reviews.length := Nat.le_trans m.answered_le_started hm.reached
  have hopen (heq : m.answered = d.reviews.length) : ∀ r ∈ d.reviews, r.LeavesOpen := by
    intro r hr
    exact hm.unsettled r (by rw [Nat.sub_zero, heq, List.take_length]; exact hr)
  obtain ⟨d', hd'⟩ := exists_decided R names o caller
  rw [← make_of_decided hd'] at hd'
  refine ⟨hasked, ?_, hcancelled, fun heq => ⟨hkept heq, Cancellation.refused_of_unsettled hd' hc (hopen heq)⟩⟩
  rcases Nat.lt_or_eq_of_le hle with hlt | heq
  · exact ⟨_, hcancelled hlt⟩
  · rcases Cancellation.refused_of_unsettled hd' hc (hopen heq) with ⟨_, hv⟩ | ⟨_, _, _, _, hv⟩
    · exact ⟨_, (hkept heq).trans hv⟩
    · exact ⟨_, (hkept heq).trans hv⟩

/-- Two accounts of one namespace, and a token. -/
def sampleCaller : Identity :=
  { claims := [("sub", "alice")]
    accounts := [("demo", [⟨"demo", "viewer"⟩, ⟨"demo", "editor"⟩])]
    token := "alice-token" }

def sampleOperation : Operation :=
  ⟨.get, { group := "", version := "v1", kind := "Secret", resource := "secrets" }, ⟨"demo", "creds"⟩⟩

/-- Denies the first question and allows all others. -/
def sampleReviewer : Reviewer :=
  fun n _ _ => some (if n = 0 then .forbidden "no rule" else .allowed)

/-- The second account would be allowed, but the call is cancelled while its review waits. -/
theorem cancelled_in_second_review :
    let d := Decision.make (globalNamespaces ["shared"]) sampleReviewer.world (some sampleCaller) sampleOperation
    let m : Cancellation := ⟨1, true⟩
    d.verdict = .granted (.serviceAccount ⟨"demo", "editor"⟩) ∧
    (∀ i, some sampleCaller = some i → i.isAdmin = false) ∧ m.Precedes d ∧
    (Decision.make (globalNamespaces ["shared"]) (m.world sampleReviewer) (some sampleCaller)
      sampleOperation).verdict = .refused .cancelled := by
  intro d m
  have hc : ∀ i, some sampleCaller = some i → i.isAdmin = false := by rintro i ⟨⟩; rfl
  have hm : m.Precedes d := by
    refine ⟨by decide, fun r hr => ?_⟩
    have hd : d.reviews.take 1 =
        [⟨.serviceAccount ⟨"demo", "viewer"⟩, sampleOperation.attributes, .answered (.forbidden "no rule")⟩] := by
      decide
    rw [show m.answered - 0 = 1 from rfl, hd, List.mem_singleton] at hr
    exact ⟨_, _, by rw [hr], by rw [hr]⟩
  have h := cancelled_never_granted sampleReviewer ["shared"] sampleOperation (some sampleCaller) m hc hm
  exact ⟨by decide, hc, hm, h.2.2.1 (by decide)⟩

end AccessGate
