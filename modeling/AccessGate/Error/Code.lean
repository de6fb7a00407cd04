/-
The codes by which failures are told apart on the wire, and the envelope that carries one.
-/
import AccessGate.Json.Record

namespace AccessGate

/-- What kind of failure a caller sees. -/
inductive ErrorCode where
  | canceled
  | invalidArgument
  | notFound
  | alreadyExists
  | permissionDenied
  | unauthenticated
  | unimplemented
  | internal
deriving DecidableEq, Repr

namespace ErrorCode

def all : List ErrorCode :=
  [canceled, invalidArgument, notFound, alreadyExists, permissionDenied, unauthenticated, unimplemented, internal]

/-- The name on the wire. -/
def name : ErrorCode → String
  | canceled => "canceled"
  | invalidArgument => "invalid_argument"
  | notFound => "not_found"
  | alreadyExists => "already_exists"
  | permissionDenied => "permission_denied"
  | unauthenticated => "unauthenticated"
  | unimplemented => "unimplemented"
  | internal => "internal"

/-- The HTTP status that goes with a code. -/
def httpStatus : ErrorCode → Nat
  | canceled => 499
  | invalidArgument => 400
  | notFound => 404
  | alreadyExists => 409
  | permissionDenied => 403
  | unauthenticated => 401
  | unimplemented => 501
  | internal => 500

def ofName? (s : String) : Option ErrorCode :=
  all.find? fun c => c.name == s

def ofJson? (j : Json) : Option ErrorCode :=
  j.choice?.bind ofName?

end ErrorCode

/-- A failure as it is sent: its code and a message for people. -/
structure ErrorEnvelope where
  code : ErrorCode
  message : String
deriving DecidableEq, Repr

namespace ErrorEnvelope

def ofJson? (j : Json) : Option ErrorEnvelope := do
  let fields ← j.record? ["code", "message"]
  let code ← Json.required ErrorCode.ofJson? fields "code"
  let message ← Json.required Json.asString? fields "message"
  some ⟨code, message⟩

def toJson (e : ErrorEnvelope) : Json :=
  .object [("code", .str e.code.name), ("message", .str e.message)]

end ErrorEnvelope

end AccessGate
