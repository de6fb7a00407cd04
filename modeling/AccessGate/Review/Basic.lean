/-
Access reviews: what is asked of a cluster, on behalf of whom, and what becomes of the question. While
a question waits for its answer the call may be cancelled, and a call that is cancelled asks nothing
more.
-/
import AccessGate.Descriptor.Basic
import AccessGate.Identity.Shown
import AccessGate.ObjectKey
import AccessGate.Verb

namespace AccessGate

/-- The operation that a review is about. -/
structure Attributes where
  verb : String
  group : String
  version : String
  resource : String
  subresource : String
  ns : String
  name : String
deriving DecidableEq, Repr

/-- The operation on the object of a key. -/
def Attributes.of (v : Verb) (d : Descriptor) (k : ObjectKey) : Attributes :=
  ⟨v.name, d.group, d.version, d.resource, d.subresource, k.ns, k.name⟩

/-- On behalf of whom a review is made. -/
inductive Subject where
  | serviceAccount (a : ServiceAccount)
  | bearer (token : String)
deriving DecidableEq, Repr

namespace Subject

/-- The kind of subject, as metrics and messages name it. -/
def label : Subject → String
  | serviceAccount _ => "service_account"
  | bearer _ => "caller"

/-- The subject as diagnostics show it. -/
def shown : Subject → String
  | serviceAccount a => "ServiceAccount(" ++ a.shown ++ ")"
  | bearer _ => "BearerToken(<redacted>)"

end Subject

/-- The answer to a review. -/
inductive Answer where
  | allowed
  | forbidden (reason : String)
  | failed (message : String)
deriving DecidableEq, Repr

/-- How a review that does not allow reads as an error. -/
def Answer.errorText : Answer → String
  | allowed => ""
  | forbidden reason => "access review denied" ++ (if reason = "" then "" else ": " ++ reason)
  | failed m => "access review failed: " ++ m

/-- The answer as diagnostics show it. -/
def Answer.shown : Answer → String
  | allowed => "Allowed"
  | forbidden reason => shownRecord "Forbidden" [("reason", Text.quoted reason)]
  | failed m => shownRecord "Backend" [("message", Text.quoted m)]

/-- What becomes of a review. -/
inductive Fate where
  | answered (a : Answer)
  /-- Asked, and neither answered nor cancelled yet. -/
  | waiting
  /-- Asked, and the call was cancelled before the answer came. -/
  | interrupted
  /-- The call was cancelled before the question was put. -/
  | unasked
deriving DecidableEq, Repr

/-- A review of a decision. -/
structure Review where
  subject : Subject
  attributes : Attributes
  fate : Fate
deriving DecidableEq, Repr

namespace Review

/-- Whether the reviewer received the question. -/
def wasAsked (r : Review) : Bool :=
  r.fate ≠ .unasked

/-- How the review is counted; one that still waits is not. -/
def outcome? (r : Review) : Option String :=
  match r.fate with
  | .answered .allowed => some "allowed"
  | .answered (.forbidden _) => some "denied"
  | .answered (.failed _) => some "error"
  | .waiting => none
  | .interrupted => some "cancelled"
  | .unasked => some "cancelled"

end Review

/-- What becomes of the reviews of one decision: of the n-th, about these attributes, for this subject.
Any behaviour of a reviewer, and any moment of cancellation, is such a function. -/
abbrev World := Nat → Attributes → Subject → Fate

/-- A reviewer: its answer to the n-th question of a decision, or none as long as it does not answer. -/
abbrev Reviewer := Nat → Attributes → Subject → Option Answer

end AccessGate
