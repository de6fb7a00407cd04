/-
How calls end that ask a gate to decide, whatever becomes of their reviews. A search passes over accounts that are
denied, and the first other review settles it (`Searched`); a gate that does not search reviews nothing (`Ends`). So
what a call comes to says what became of its reviews: it was cancelled if and only if one of them was, and then no
other was (`Ends.countP_wasCancelled`).
-/
import AccessGate.Proofs.Client.Transparency
import AccessGate.Proofs.Decision.Cancellation
import AccessGate.Proofs.Decision.Reviews

namespace AccessGate

/-! ## Searches -/

namespace Review

/-- Whether the call was cancelled before the question was put or while it waited for its answer. -/
def wasCancelled (r : Review) : Bool :=
  r.fate = .interrupted ∨ r.fate = .unasked

theorem wasCancelled_iff {r : Review} : r.wasCancelled = true ↔ r.fate = .interrupted ∨ r.fate = .unasked :=
  decide_eq_true_iff

/-- What a review that settles a search makes of it. The denial of an account settles nothing. -/
inductive Settles (o : Operation) (r : Review) : Verdict → Prop
  | allowed : r.fate = .answered .allowed → Settles o r (.granted r.subject.grant)
  | denied {token reason : String} : r.subject = .bearer token → r.fate = .answered (.forbidden reason) →
      Settles o r (.refused (o.forbidden reason))
  | failed {m : String} : r.fate = .answered (.failed m) →
      Settles o r (.refused (.internal (r.subject.label ++ " access review failed: " ++ m)))
  | waiting : r.fate = .waiting → Settles o r .pending
  | cancelled : r.wasCancelled = true → Settles o r (.refused .cancelled)

end Review

namespace Decision

/-- How a search ends: with nobody left to ask about, or with the review that settles it; what was reviewed before
denied an account each time. -/
inductive Searched (o : Operation) : Decision → Prop
  | nobodyLeft : Searched o ⟨.refused (o.forbidden "no bearer token to review"), []⟩
  | settled {r : Review} {v : Verdict} : r.Settles o v → Searched o ⟨v, [r]⟩
  | passed {r : Review} {d : Decision} : r.LeavesOpen → d.Searched o → (d.after r).Searched o

theorem searched_tryToken (w : World) (o : Operation) (token : String) (n : Nat) :
    (tryToken w o token n).Searched o := by
  unfold tryToken
  split
  · exact .nobodyLeft
  · rcases hw : w n o.attributes (.bearer token) with (_ | reason | m) | _ | _ | _
    case answered.allowed => exact .settled (.allowed rfl)
    case answered.forbidden => exact .settled (.denied rfl rfl)
    case answered.failed => exact .settled (.failed rfl)
    case waiting => exact .settled (.waiting rfl)
    case interrupted => exact .settled (.cancelled rfl)
    case unasked => exact .settled (.cancelled rfl)

/-- Induction on the accounts still to be tried: each is passed over or settles the search. -/
theorem searched_tryAccounts {w : World} {o : Operation} {otherwise : Nat → Decision}
    (h : ∀ n, (otherwise n).Searched o) :
    ∀ (l : List ServiceAccount) (n : Nat), (tryAccounts w o.attributes otherwise n l).Searched o
  | [], n => h n
  | sa :: l, n => by
    have ih : (tryAccounts w o.attributes otherwise (n + 1) l).Searched o := searched_tryAccounts h l (n + 1)
    rw [tryAccounts]
    rcases hw : w n o.attributes (.serviceAccount sa) with (_ | reason | m) | _ | _ | _
    case answered.allowed => exact .settled (.allowed rfl)
    case answered.forbidden => exact .passed ⟨sa, reason, rfl, rfl⟩ ih
    case answered.failed => exact .settled (.failed rfl)
    case waiting => exact .settled (.waiting rfl)
    case interrupted => exact .settled (.cancelled rfl)
    case unasked => exact .settled (.cancelled rfl)

theorem searched_make (globals : List String) (w : World) {i : Identity} (hi : i.isAdmin = false) (o : Operation) :
    (make globals w (some i) o).Searched o := by
  have hmake : make globals w (some i) o =
      tryAccounts w o.attributes (tryToken w o i.token) 0 (candidates globals i o.key.ns) := by
    simp [make, hi]
  rw [hmake]
  exact searched_tryAccounts (searched_tryToken w o i.token) _ 0

variable {o : Operation} {d : Decision}

theorem Searched.countP_wasCancelled (h : d.Searched o) :
    d.reviews.countP Review.wasCancelled = if d.verdict = .refused .cancelled then 1 else 0 := by
  induction h with
  | nobodyLeft => rfl
  | @settled r v hr =>
    cases hr with
    | allowed hfate => simp [Review.wasCancelled, hfate]
    | denied hsubject hfate => simp [Review.wasCancelled, hfate, Operation.forbidden]
    | failed hfate => simp [Review.wasCancelled, hfate]
    | waiting hfate => simp [Review.wasCancelled, hfate]
    | cancelled hfate => simp [hfate]
  | @passed r d hr _ ih =>
    -- an account that is passed over was denied, so a cancelled review comes after it
    obtain ⟨sa, reason, -, hfate⟩ := hr
    have hr : ¬ r.wasCancelled = true := by simp [Review.wasCancelled, hfate]
    rw [show (d.after r).verdict = d.verdict from rfl, ← ih]
    exact List.countP_cons_of_neg hr

end Decision

/-! ## Gates -/

namespace Client

/-- How a call ends that asks a gate to decide on an operation: it is let through unchecked, or without a search, or
searched for. -/
inductive Ends (c : Client) (o : Operation) : Decision → Prop
  | unchecked : c.skipAuthorization = true → Ends c o ⟨.granted .unchecked, []⟩
  | nobody : c.skipAuthorization = false → Ends c o ⟨.refused .notAllowed, []⟩
  | admin : c.skipAuthorization = false → Ends c o ⟨.granted .admin, []⟩
  | searched {d : Decision} : c.skipAuthorization = false → d.Searched o → Ends c o d

variable {c : Client} {o : Operation} {d : Decision}

theorem ends_authorize (c : Client) (call : Call) (o : Operation) : c.Ends o (c.authorize call o) := by
  cases hskip : c.skipAuthorization with
  | true =>
    rw [authorize_unchecked hskip]
    exact .unchecked hskip
  | false =>
    have hmake : c.authorize call o = Decision.make c.globalNamespaces call.world call.caller o := by
      simp [authorize, hskip]
    cases hcaller : call.caller with
    | none =>
      rw [hmake, hcaller]
      exact .nobody hskip
    | some i =>
      cases hi : i.isAdmin with
      | true =>
        rw [authorize_admin hskip hcaller hi]
        exact .admin hskip
      | false =>
        rw [hmake, hcaller]
        exact .searched hskip (Decision.searched_make _ _ hi o)

/-- A call is cancelled if and only if one of its reviews was, and then no other was. -/
theorem Ends.countP_wasCancelled (h : c.Ends o d) :
    d.reviews.countP Review.wasCancelled = if d.verdict = .refused .cancelled then 1 else 0 := by
  cases h with
  | unchecked hskip => rfl
  | nobody hskip => rfl
  | admin hskip => rfl
  | searched hskip hd => exact hd.countP_wasCancelled

end Client

end AccessGate
