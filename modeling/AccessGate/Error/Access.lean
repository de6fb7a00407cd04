/-
How an operation through the gate fails: in the decision, or after it in the cluster or on the way
between typed objects and the cluster's.
-/
import AccessGate.Cluster.Error

namespace AccessGate

/-- How an operation through the gate fails. -/
inductive AccessError where
  /-- There is no caller. -/
  | notAllowed
  /-- The caller may not do this. -/
  | forbidden (verb resource name reason : String)
  | internal (message : String)
  | cancelled
  /-- The type is not in the scheme. -/
  | unregisteredType
  | cluster (e : Cluster.Error)
  /-- A typed object and the cluster's object do not fit. -/
  | conversion
deriving DecidableEq, Repr

namespace AccessError

def code : AccessError → ErrorCode
  | notAllowed => .unauthenticated
  | forbidden .. => .permissionDenied
  | internal _ => .internal
  | cancelled => .canceled
  | unregisteredType => .internal
  | cluster e => e.code
  | conversion => .internal

/-- The message, where it is the gate's own. -/
def message? : AccessError → Option String
  | notAllowed => some "not allowed: request carries no caller identity"
  | forbidden v r n reason =>
    some ("forbidden: caller cannot " ++ v ++ " " ++ r ++ (if n = "" then "" else " " ++ Text.quoted n)
      ++ ": " ++ reason)
  | internal m => some ("internal error: " ++ m)
  | cancelled => some "request cancelled"
  | unregisteredType => none
  | cluster e => e.message?
  | conversion => none

/-- How a decision that fails like this is counted. -/
def outcome : AccessError → String
  | notAllowed => "not_allowed"
  | forbidden .. => "forbidden"
  | cancelled => "cancelled"
  | _ => "error"

end AccessError

end AccessGate
