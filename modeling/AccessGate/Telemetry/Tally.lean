/-
What is counted: decisions by outcome and basis, reviews by subject and outcome, and how long reviews
took. A decision that is still pending counts only the reviews that have ended.
-/
import AccessGate.Decision
import AccessGate.Number.Binary64

namespace AccessGate.Telemetry

/-- The two label values under which something is counted. -/
structure Labels where
  first : String
  second : String
deriving DecidableEq, Repr

instance : Ord Labels where
  compare := compareLex (compareOn Labels.first) (compareOn Labels.second)

/-- Counts, and durations in seconds, latest first. -/
structure Tally where
  /-- By outcome and basis. -/
  decisions : Assoc Labels Nat := []
  /-- By subject and outcome. -/
  reviews : Assoc Labels Nat := []
  /-- By subject. -/
  durations : Assoc String (List Binary64) := []
deriving Repr

/-- A metric: its name, what it says, and the names of its labels. -/
structure Metric where
  name : String
  help : String
  labels : List String
deriving DecidableEq, Repr

def decisionsMetric : Metric :=
  ⟨"kargo_authz_decisions_total", "Authorization decisions by outcome and the basis they were made on",
    ["outcome", "basis"]⟩

def reviewsMetric : Metric :=
  ⟨"kargo_access_reviews_total", "Access reviews sent to the cluster by subject kind and outcome",
    ["subject", "outcome"]⟩

def durationsMetric : Metric :=
  ⟨"kargo_access_review_duration_seconds", "Access review round-trip time in seconds", ["subject"]⟩

namespace Tally

def increment (m : Assoc Labels Nat) (l : Labels) : Assoc Labels Nat :=
  m.insert l ((m.get? l).getD 0 + 1)

def countDecision (t : Tally) (outcome basis : String) : Tally :=
  { t with decisions := increment t.decisions ⟨outcome, basis⟩ }

/-- Counts a review and how long it took. -/
def countReview (t : Tally) (subject outcome : String) (duration : Binary64) : Tally :=
  { t with
    reviews := increment t.reviews ⟨subject, outcome⟩
    durations := t.durations.insert subject (duration :: (t.durations.get? subject).getD []) }

def addReview (t : Tally) (r : Review) : Tally :=
  match r.outcome? with
  | some outcome => t.countReview r.subject.label outcome (Binary64.zero false)
  | none => t

def addVerdict (t : Tally) : Verdict → Tally
  | .granted g => t.countDecision "allowed" g.basis
  | .refused e => t.countDecision e.outcome "none"
  | .pending => t

/-- Counts a decision with its reviews. -/
def add (t : Tally) (d : Decision) : Tally :=
  (d.reviews.foldl addReview t).addVerdict d.verdict

/-- What is counted: metric, label values and count. -/
def counts (t : Tally) : List (Metric × List String × Nat) :=
  (t.decisions.map fun c => (decisionsMetric, [c.1.first, c.1.second], c.2))
    ++ (t.reviews.map fun c => (reviewsMetric, [c.1.first, c.1.second], c.2))

end Tally

end AccessGate.Telemetry
