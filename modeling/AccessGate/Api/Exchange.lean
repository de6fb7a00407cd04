/-
Exchanges with an API server: what is sent, what comes back, and when what comes back is a refusal. A
refusal that does not describe itself is described by its status and its text.
-/
import AccessGate.Cluster.Error
import AccessGate.Json.Parser
import AccessGate.Json.Printer
import AccessGate.Kind.Shape.Text

namespace AccessGate.Api

/-- What is sent to an API server. -/
structure Request where
  method : String
  uri : String
  contentType : Option String := none
  authorization : Option String := none
  body : Option Json := none
deriving DecidableEq, Repr

/-- What an API server sends back. -/
structure Response where
  status : Nat := 200
  body : String := ""
deriving DecidableEq, Repr

/-- The phrases of the statuses that refuse. -/
def phrases : List (Nat × String) :=
  [(400, "Bad Request"), (401, "Unauthorized"), (402, "Payment Required"), (403, "Forbidden"),
    (404, "Not Found"), (405, "Method Not Allowed"), (406, "Not Acceptable"),
    (407, "Proxy Authentication Required"), (408, "Request Timeout"), (409, "Conflict"), (410, "Gone"),
    (411, "Length Required"), (412, "Precondition Failed"), (413, "Payload Too Large"),
    (414, "URI Too Long"), (415, "Unsupported Media Type"), (416, "Range Not Satisfiable"),
    (417, "Expectation Failed"), (418, "I'm a teapot"), (421, "Misdirected Request"),
    (422, "Unprocessable Entity"), (423, "Locked"), (424, "Failed Dependency"), (425, "Too Early"),
    (426, "Upgrade Required"), (428, "Precondition Required"), (429, "Too Many Requests"),
    (431, "Request Header Fields Too Large"), (451, "Unavailable For Legal Reasons"),
    (500, "Internal Server Error"), (501, "Not Implemented"), (502, "Bad Gateway"),
    (503, "Service Unavailable"), (504, "Gateway Timeout"), (505, "HTTP Version Not Supported"),
    (506, "Variant Also Negotiates"), (507, "Insufficient Storage"), (508, "Loop Detected"),
    (510, "Not Extended"), (511, "Network Authentication Required")]

/-- A status with its phrase. -/
def statusText (status : Nat) : String :=
  toString status ++ " " ++ (phrases.lookup status).getD "<unknown status code>"

/-- What an API server's description of a refusal looks like. -/
def refusalShape : Shape :=
  .record true [("status", .mandatory, .text), ("message", .defaulted, .text), ("reason", .defaulted, .text),
    ("code", .mandatory, .natural 16)]

/-- Reads how an API server describes a refusal. -/
def refusalOf (depth : Nat) (d : Json.Draft) : Except Json.Fault Cluster.ApiStatus := do
  let j ← refusalShape.ofDraft depth d
  let textAt (k : String) := ((j.get? k).bind Json.asString?).getD ""
  .ok ⟨textAt "status", textAt "message", textAt "reason", (((j.get? "code").bind Json.asInt?).getD 0).toNat⟩

namespace Response

/-- What is read from the body. -/
def read? {α : Type} (r : Response) (read : Nat → Json.Draft → Except Json.Fault α) : Option α :=
  (Json.readText (read Json.maxDepth) r.body).toOption

def document? (r : Response) : Option Json :=
  Json.parse? r.body

/-- Whether the status says that the request failed. -/
def isRefusal (r : Response) : Bool :=
  400 ≤ r.status && r.status < 600

/-- The refusal that an answer is, if it is one. -/
def refusal? (r : Response) : Option Cluster.ApiStatus :=
  if r.isRefusal then
    some ((r.read? refusalOf).getD
      ⟨statusText r.status, Text.quoted r.body, "Failed to parse error data", r.status⟩)
  else none

end Response

end AccessGate.Api
