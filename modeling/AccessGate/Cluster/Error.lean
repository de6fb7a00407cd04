/-
How operations on a cluster fail.
-/
import AccessGate.Error.Code
import AccessGate.Text.Quoted

namespace AccessGate.Cluster

/-- The answer of an API server that refuses a request. -/
structure ApiStatus where
  status : String
  message : String
  reason : String
  code : Nat
deriving DecidableEq, Repr

namespace ApiStatus

def toJson (s : ApiStatus) : Json :=
  .object [("status", .str s.status), ("message", .str s.message), ("reason", .str s.reason),
    ("code", .int s.code)]

def text (s : ApiStatus) : String :=
  "ApiError: " ++ s.message ++ ": " ++ s.reason ++ " (ErrorResponse \x7b status: " ++ Text.quoted s.status
    ++ ", message: " ++ Text.quoted s.message ++ ", reason: " ++ Text.quoted s.reason
    ++ ", code: " ++ toString s.code ++ " \x7d)"

/-- What a refusal by an API server means to a caller. -/
def errorCode (s : ApiStatus) : ErrorCode :=
  match s.code with
  | 400 | 422 => .invalidArgument
  | 403 => .permissionDenied
  | 404 => .notFound
  | 409 => .alreadyExists
  | _ => .internal

end ApiStatus

/-- How an operation on a cluster fails. -/
inductive Error where
  | notFound (resource name : String)
  | alreadyExists (resource name : String)
  | invalid (message : String)
  | unsupported (message : String)
  /-- The API server refused the request. -/
  | api (status : ApiStatus)
  /-- No request could be made. -/
  | badRequest (message : String)
  /-- The exchange with the API server failed otherwise. -/
  | exchange
  /-- An object could not be read or written as a document. -/
  | serialization
deriving DecidableEq, Repr

namespace Error

def code : Error → ErrorCode
  | notFound .. => .notFound
  | alreadyExists .. => .alreadyExists
  | invalid _ => .invalidArgument
  | unsupported _ => .unimplemented
  | api s => s.errorCode
  | badRequest _ => .internal
  | exchange => .internal
  | serialization => .internal

/-- The message, where it is the gate's own. -/
def message? : Error → Option String
  | notFound r n => some (r ++ " " ++ Text.quoted n ++ " not found")
  | alreadyExists r n => some (r ++ " " ++ Text.quoted n ++ " already exists")
  | invalid m => some ("invalid object: " ++ m)
  | unsupported m => some ("unsupported operation: " ++ m)
  | api s => some s.text
  | badRequest m => some m
  | exchange => none
  | serialization => none

/-- Whether the failure says that there is no such object. -/
def isNotFound (e : Error) : Bool :=
  match e with
  | notFound .. => true
  | api s => s.code == 404
  | _ => false

end Error

end AccessGate.Cluster
