/-
What decisions come to, and failures of operations through the gate, as documents.
-/
import AccessGate.Cluster.Document
import AccessGate.Decision

namespace AccessGate

/-- The name of a kind of failure. -/
def AccessError.kind : AccessError → String
  | notAllowed => "NotAllowed"
  | forbidden .. => "Forbidden"
  | internal _ => "Internal"
  | cancelled => "Cancelled"
  | unregisteredType => "UnregisteredType"
  | cluster e => "Cluster." ++ e.kind
  | conversion => "Conversion"

def AccessError.toJson : AccessError → Json
  | cluster e => e.toJson "Cluster."
  | e => .object ([("error", .str e.kind), ("code", .str e.code.name)] ++ Json.member? "message" (e.message?.map .str))

def Grant.toJson (g : Grant) : Json :=
  .object [("grant", .str g.basis), ("service_account", match g with
    | .serviceAccount a => .strings [a.ns, a.name]
    | _ => .null)]

/-- What is said of a call that waits for an answer. -/
def pendingJson : Json :=
  .object [("pending", .bool true)]

def Verdict.toJson : Verdict → Json
  | .granted g => g.toJson
  | .refused e => e.toJson
  | .pending => pendingJson

/-- Whether a review was cut short by a cancellation while it waited. -/
def Decision.wasInterrupted (d : Decision) : Bool :=
  d.reviews.any fun r => r.fate = .interrupted

end AccessGate
