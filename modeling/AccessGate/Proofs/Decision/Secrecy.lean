/-
What is told of a caller's token: whether there is one, and nothing else. Main statement: two callers that
differ only in their tokens are shown, written and named alike, and if the reviewer answers alike about both
tokens, what is decided for them, asked of the reviewer and logged looks the same (`token_untold`).

The proof takes the tokens out of a decision: what is left of the two decisions is equal, account by account.
-/
import AccessGate.Proofs.Decision.Cancellation
import AccessGate.Proofs.Identity.Document
import AccessGate.Telemetry.LogLine

namespace AccessGate

/-! ## Taking tokens out -/

/-- The subject without its token, if it is one. -/
def Subject.redacted : Subject → Subject
  | serviceAccount a => serviceAccount a
  | bearer _ => bearer ""

/-- The review without the token that it is about, if it is about one. -/
def Review.redacted (r : Review) : Review :=
  { r with subject := r.subject.redacted }

/-- The decision with the tokens taken out of its reviews. -/
def Decision.redacted (d : Decision) : Decision :=
  { d with reviews := d.reviews.map Review.redacted }

/-- A review as diagnostics show it: for whom it is, what it is about, and what became of it. -/
def Review.shown (r : Review) : String × Attributes × Fate :=
  (r.subject.shown, r.attributes, r.fate)

theorem Subject.shown_redacted (s : Subject) : s.redacted.shown = s.shown := by
  cases s <;> rfl

theorem Review.shown_redacted (r : Review) : r.redacted.shown = r.shown := by
  unfold shown redacted
  rw [Subject.shown_redacted]

/-- What a review says in the log it says without its token too. -/
theorem Telemetry.deniedEvent?_redacted (r : Review) : deniedEvent? r.redacted = deniedEvent? r := by
  obtain ⟨_ | _, _, _⟩ := r <;> rfl

namespace Decision

theorem redacted_after (d : Decision) (r : Review) : (d.after r).redacted = d.redacted.after r.redacted := rfl

/-- Decisions that are equal without their tokens are shown alike. -/
theorem shown_of_redacted {d d' : Decision} (h : d'.redacted = d.redacted) :
    d'.reviews.map Review.shown = d.reviews.map Review.shown := by
  have hshown : ∀ d : Decision, d.reviews.map Review.shown = d.redacted.reviews.map Review.shown := by
    intro d
    rw [redacted, List.map_map]
    exact List.map_congr_left fun r _ => r.shown_redacted.symm
  rw [hshown d', h, ← hshown d]

theorem events_of_redacted {d d' : Decision} (h : d'.redacted = d.redacted) :
    Telemetry.decisionEvents d' = Telemetry.decisionEvents d := by
  have hevents : ∀ d : Decision, Telemetry.decisionEvents d = Telemetry.decisionEvents d.redacted := by
    intro d
    unfold Telemetry.decisionEvents redacted
    rw [List.filterMap_map]
    congr 1
    exact List.filterMap_congr fun r _ => (Telemetry.deniedEvent?_redacted r).symm
  rw [hevents d', h, ← hevents d]

end Decision

/-! ## Two callers -/

/-- Whether two callers have a token each and differ in nothing else. -/
structure Identity.SameButToken (i i' : Identity) : Prop where
  same : i' = i.withToken i'.token
  given : i.token ≠ ""
  given' : i'.token ≠ ""

/-- Whether what becomes of reviews is the same in two calls: of those of an account, and of that of the one
token in the one call and of the other in the other. -/
structure World.Alike (token token' : String) (w w' : World) : Prop where
  account : ∀ n a sa, w' n a (.serviceAccount sa) = w n a (.serviceAccount sa)
  token : ∀ n a, w' n a (.bearer token') = w n a (.bearer token)

namespace Decision

variable {token token' : String} {w w' : World}

theorem redacted_tryToken (h : World.Alike token token' w w') (given : token ≠ "") (given' : token' ≠ "")
    (o : Operation) (n : Nat) : (tryToken w' o token' n).redacted = (tryToken w o token n).redacted := by
  unfold tryToken
  rw [if_neg given, if_neg given']
  simp only [h.token]
  rfl

/-- Induction on the accounts still to be tried: both decisions make the same of each. -/
theorem redacted_tryAccounts (h : World.Alike token token' w w') (a : Attributes) {otherwise otherwise' : Nat → Decision}
    (hlast : ∀ n, (otherwise' n).redacted = (otherwise n).redacted) :
    ∀ (l : List ServiceAccount) (n : Nat),
      (tryAccounts w' a otherwise' n l).redacted = (tryAccounts w a otherwise n l).redacted
  | [], n => hlast n
  | sa :: l, n => by
    have ih := redacted_tryAccounts h a hlast l (n + 1)
    rw [tryAccounts, tryAccounts]
    simp only [h.account]
    rcases w n a (.serviceAccount sa) with (_ | reason | m) | _ | _ | _
    case answered.forbidden =>
      rw [redacted_after, redacted_after, ih]
    all_goals rfl

/-- Two decisions for callers that differ in their tokens are the same but for these. -/
theorem redacted_make {i i' : Identity} (hi : i.SameButToken i') (h : World.Alike i.token i'.token w w')
    (globals : List String) (o : Operation) :
    (make globals w' (some i') o).redacted = (make globals w (some i) o).redacted := by
  have hadmin : i'.isAdmin = i.isAdmin := by rw [hi.same]; rfl
  have hcandidates : candidates globals i' o.key.ns = candidates globals i o.key.ns := by rw [hi.same]; rfl
  unfold make
  simp only [hadmin, hcandidates]
  split
  · rfl
  · exact redacted_tryAccounts h o.attributes (redacted_tryToken h hi.given hi.given' o) _ 0

end Decision

/-! ## The token -/

namespace Identity

theorem shown_of_sameButToken {i i' : Identity} (h : i.SameButToken i') : i'.shown = i.shown := by
  have hredacted : redacted i'.token = redacted i.token := by
    unfold redacted
    rw [if_neg h.given, if_neg h.given']
  have hshown : (i.withToken i'.token).shown = i.shown := by
    unfold shown withToken
    simp only [hredacted]
  rw [← hshown, ← h.same]

theorem logId_of_sameButToken {i i' : Identity} (h : i.SameButToken i') : i'.logId = i.logId := by
  have hlogId : (i.withToken i'.token).logId = i.logId := by
    unfold logId withToken claim?
    simp only [if_neg h.given, if_neg h.given']
  rw [← hlogId, ← h.same]

end Identity

/-- Of two callers who have a token each and differ in nothing else, nothing tells one from the other: not how
they are shown, nor the name that logs use, nor their documents, which are the same whatever the token is and
give back a caller without one. And in any two calls in which the reviewer answers alike about both tokens, and
to all other questions the same, whenever they are cancelled, the decisions come to the same verdict, with the
same error if it is one, after reviews that are shown alike, and log the same. -/
theorem token_untold {i i' : Identity} (h : i.SameButToken i') :
    i'.shown = i.shown ∧ i'.logId = i.logId ∧ i'.toJson = i.toJson ∧
    ((∀ token, (i.withToken token).toJson = i.toJson) ∧ (Identity.ofJson? i.toJson).map Identity.token = some "") ∧
    ∀ (globals : List String) (w w' : World) (o : Operation), World.Alike i.token i'.token w w' →
      let d := Decision.make globals w (some i) o
      let d' := Decision.make globals w' (some i') o
      d'.verdict = d.verdict ∧ d'.reviews.map Review.shown = d.reviews.map Review.shown ∧
      ∀ l f, Telemetry.decisionLines l f o d' = Telemetry.decisionLines l f o d := by
  have hjson : ∀ token, (i.withToken token).toJson = i.toJson := fun _ => rfl
  refine ⟨Identity.shown_of_sameButToken h, Identity.logId_of_sameButToken h, ?document, ⟨hjson, ?reread⟩, ?decision⟩
  case document =>
    rw [h.same, hjson]
  case reread =>
    rw [Identity.ofJson?_toJson]
    rfl
  case decision =>
    intro globals w w' o hw d d'
    have hd : d'.redacted = d.redacted := Decision.redacted_make h hw globals o
    have hverdict : d'.redacted.verdict = d.redacted.verdict := by rw [hd]
    refine ⟨hverdict, Decision.shown_of_redacted hd, ?_⟩
    intro l f
    unfold Telemetry.decisionLines
    rw [Decision.events_of_redacted hd]

/-- Denies all accounts, and fails to ask about tokens. -/
def failingWorld : World
  | _, _, .serviceAccount _ => .answered (.forbidden "no rule")
  | _, _, .bearer _ => .answered (.failed "timed out")

/-- The review of the token fails, and the error does not say which token it was. -/
theorem failed_review_untold :
    let i := sampleCaller
    let i' := sampleCaller.withToken "bob-token"
    let d := Decision.make ["shared"] failingWorld (some i) sampleOperation
    let d' := Decision.make ["shared"] failingWorld (some i') sampleOperation
    i.SameButToken i' ∧ World.Alike i.token i'.token failingWorld failingWorld ∧ d ≠ d' ∧
      d.verdict = .refused (.internal "caller access review failed: timed out") ∧ d'.verdict = d.verdict ∧
      d'.reviews.map Review.shown = d.reviews.map Review.shown := by
  intro i i' d d'
  have hi : i.SameButToken i' := ⟨rfl, by decide, by decide⟩
  have hw : World.Alike i.token i'.token failingWorld failingWorld := ⟨fun _ _ _ => rfl, fun _ _ => rfl⟩
  obtain ⟨-, -, -, -, hdecision⟩ := token_untold hi
  obtain ⟨hverdict, hreviews, -⟩ := hdecision ["shared"] failingWorld failingWorld sampleOperation hw
  exact ⟨hi, hw, by decide, by decide, hverdict, hreviews⟩

end AccessGate
