/-
Access reviews by an API server. A review for a service account is asked for with the credentials of
the platform and names the account; a review for a caller is asked for with the caller's token and no
other credential. Only an answer that says so allows anything: a refusal to review is a denial, and
whatever else happens is a failure.
-/
import AccessGate.Api.Exchange
import AccessGate.Cluster.Object
import AccessGate.Kind.Basic
import AccessGate.Review.Basic
import AccessGate.Text.Base64

namespace AccessGate.Api

open Shape (opt req object)

/-! ## Credentials -/

/-- How a connection proves who it is. -/
structure Credentials where
  username : Option String := none
  password : Option String := none
  token : Option String := none
  tokenFile : Option String := none
  clientCertificate : Option String := none
  clientCertificateData : Option String := none
  clientKey : Option String := none
  clientKeyData : Option String := none
  impersonate : Option String := none
  impersonateGroups : Option (List String) := none
  /-- The provider that issues credentials, as its document describes it. -/
  authProvider : Option Json := none
  /-- The program that issues credentials, as its document describes it. -/
  exec : Option Json := none
deriving DecidableEq, Repr

namespace Credentials

/-- A token and nothing else. -/
def ofToken (token : String) : Credentials :=
  { token := some token }

/-- The header of a user with a password, or else of a token; blanks at its end are not sent. -/
def authorization? (c : Credentials) : Option String :=
  let header := match c.username, c.password with
    | some u, some p =>
      some ("Basic " ++ String.ofList (Text.Base64.encode (u ++ ":" ++ p).toUTF8.toList))
    | _, _ => c.token.map ("Bearer " ++ ·)
  header.map fun h => String.ofList (Text.trimEndChars h.toList)

/-- A provider that issues credentials. Its description has to be readable; it is not asked. -/
def providerShape : Shape :=
  .record true [("name", .mandatory, .text), ("config", .defaulted, .dict .text)]

/-- A program that issues credentials. Its description has to be readable; it is not run. -/
def pluginShape : Shape :=
  .record true
    [("apiVersion", .optional, .text), ("command", .optional, .text), ("args", .optional, .list .text),
      ("env", .optional, .list (.dict .text)), ("interactiveMode", .optional, .anything),
      ("provideClusterInfo", .defaulted, .flag)]

/-- The fields of credentials in client configurations. -/
def fields : List (String × Presence × Shape) :=
  (["username", "password", "token", "tokenFile", "client-certificate", "client-certificate-data", "client-key",
      "client-key-data", "as"].map fun k => (k, .optional, .text))
    ++ [("as-groups", .optional, .list .text), ("auth-provider", .optional, providerShape),
      ("exec", .optional, pluginShape)]

/-- Whether a list has a value for each field, as a list of credentials has to. -/
def isComplete : Json → Bool
  | .arr xs => xs.length = fields.length
  | _ => true

/-- Whether the program, if there is one, says in a known way when it may ask the user. -/
def hasKnownMode (shaped : Json) : Bool :=
  (((shaped.get? "exec").bind (·.get? "interactiveMode")).all fun m =>
    m.choice?.any ["Never", "IfAvailable", "Always"].contains)

/-- Reads credentials as client configurations hold them. -/
def ofJson? (j : Json) : Option Credentials := do
  let shaped ← (Shape.record true fields).read? j
  let textAt (k : String) := (shaped.get? k).bind Json.asString?
  if isComplete j && hasKnownMode shaped then
    some {
      username := textAt "username"
      password := textAt "password"
      token := textAt "token"
      tokenFile := textAt "tokenFile"
      clientCertificate := textAt "client-certificate"
      clientCertificateData := textAt "client-certificate-data"
      clientKey := textAt "client-key"
      clientKeyData := textAt "client-key-data"
      impersonate := textAt "as"
      impersonateGroups := (shaped.get? "as-groups").bind Json.asStrings?
      authProvider := shaped.get? "auth-provider"
      exec := shaped.get? "exec" }
  else none

end Credentials

/-- Where a server is and how it is reached, whoever reaches it. Times are in nanoseconds. -/
structure Server where
  url : String
  defaultNamespace : String := "default"
  rootCertificates : Option (List (List UInt8)) := none
  connectTimeout : Option Nat := some 30000000000
  readTimeout : Option Nat := some 295000000000
  writeTimeout : Option Nat := some 295000000000
  acceptsInvalidCertificates : Bool := false
  disablesCompression : Bool := false
  proxyUrl : Option String := none
  tlsServerName : Option String := none
deriving DecidableEq, Repr

/-- A server of which only the address is said. -/
instance : Coe String Server where
  coe url := { url }

/-- How a server is reached, and with which credentials. -/
structure Connection where
  server : Server
  credentials : Credentials
deriving DecidableEq, Repr

/-- The same server, reached with a caller's token only. -/
def Connection.forToken (c : Connection) (token : String) : Connection :=
  { c with credentials := .ofToken token }

/-- The connection that reviews for a subject are sent over. -/
def Connection.forSubject (c : Connection) : Subject → Connection
  | .serviceAccount _ => c
  | .bearer token => c.forToken token

/-! ## Requests -/

def reviewGroup : String := "authorization.k8s.io"

/-- The attributes of the operation, without those that are empty. The group is always there: the core
group is the empty one. -/
def attributesJson (a : Attributes) : Json :=
  let given (k v : String) : List (String × Json) := if v = "" then [] else [(k, .str v)]
  .object ([("group", .str a.group)] ++ given "verb" a.verb ++ given "version" a.version
    ++ given "resource" a.resource ++ given "subresource" a.subresource ++ given "namespace" a.ns
    ++ given "name" a.name)

/-- The kind of the review for a subject. -/
def reviewKind : Subject → String
  | .serviceAccount _ => "SubjectAccessReview"
  | .bearer _ => "SelfSubjectAccessReview"

/-- The user that a review is for, if it names one. -/
def reviewUser? : Subject → Option String
  | .serviceAccount a => some a.username
  | .bearer _ => none

def reviewBody (a : Attributes) (s : Subject) : Json :=
  .object [("apiVersion", .str (reviewGroup ++ "/v1")), ("kind", .str (reviewKind s)), ("metadata", .obj []),
    ("spec", .object ([("resourceAttributes", attributesJson a)] ++ Json.member? "user" ((reviewUser? s).map .str)))]

/-- The request that asks for a review. -/
def reviewRequest (c : Connection) (a : Attributes) (s : Subject) : Request :=
  { method := "POST"
    uri := "/apis/" ++ reviewGroup ++ "/v1/" ++ Text.toAsciiLower (reviewKind s) ++ "s?"
    contentType := some "application/json"
    authorization := (c.forSubject s).credentials.authorization?
    body := some (reviewBody a s) }

/-! ## Answers -/

def requirementShape : Shape :=
  object [req "key" .text, req "operator" .text, opt "values" (.list .text)]

def selectorShape : Shape :=
  object [opt "rawSelector" .text, opt "requirements" (.list requirementShape)]

def resourceAttributesShape : Shape :=
  object [opt "fieldSelector" selectorShape, opt "group" .text, opt "labelSelector" selectorShape,
    opt "name" .text, opt "namespace" .text, opt "resource" .text, opt "subresource" .text, opt "verb" .text,
    opt "version" .text]

def specShape : Subject → Shape
  | .serviceAccount _ =>
    object [opt "extra" (.dict (.list .text)), opt "groups" (.list .text),
      opt "nonResourceAttributes" (object [opt "path" .text, opt "verb" .text]),
      opt "resourceAttributes" resourceAttributesShape, opt "uid" .text, opt "user" .text]
  | .bearer _ =>
    object [opt "nonResourceAttributes" (object [opt "path" .text, opt "verb" .text]),
      opt "resourceAttributes" resourceAttributesShape]

def statusShape : Shape :=
  object [req "allowed" .flag, opt "denied" .flag, opt "evaluationError" .text, opt "reason" .text]

/-- A review as documents hold it. -/
def reviewDocument (s : Subject) : Kind :=
  ⟨reviewGroup, "v1", reviewKind s, true,
    object [req "metadata" Cluster.Metadata.shape, req "spec" (specShape s), opt "status" statusShape]⟩

/-- The status of a review: whether it allows, and perhaps why not. -/
structure ReviewStatus where
  allowed : Bool := false
  reason : Option String := none
deriving DecidableEq, Repr

/-- The status of a review that was read, if it has one. -/
def statusOf (review : Json) : Option ReviewStatus :=
  (review.get? "status").map fun s =>
    ⟨((s.get? "allowed").bind Json.asBool?).getD false, (s.get? "reason").bind Json.asString?⟩

/-- The review that an answer holds, if it is one. -/
def review? (s : Subject) (r : Response) : Option Json :=
  r.read? fun depth => (reviewDocument s).documentShape.ofDraft depth

/-- Whether answers of a status have a body on their way: not those that are no answers yet, and not those
that say there is nothing, or nothing new. -/
def carriesBody (status : Nat) : Bool :=
  200 ≤ status && status ≠ 204 && status ≠ 304

/-- An answer as it arrives. -/
def arrived (r : Response) : Response :=
  if carriesBody r.status then r else { r with body := "" }

/-- What becomes of the request of a review. -/
inductive Exchange where
  | answered (r : Response)
  /-- There is no connection with the caller's token. -/
  | unconnected (reason : String)
  /-- No answer comes, or none that is text. -/
  | broken (reason : String)
deriving DecidableEq, Repr

/-- What is received for the request of a review. -/
inductive Received where
  | review (status : Option ReviewStatus)
  | refusal (e : Cluster.ApiStatus)
  | failure (message : String)
deriving DecidableEq, Repr

def received (s : Subject) : Exchange → Received
  | .unconnected reason => .failure ("building caller client: " ++ reason)
  | .broken reason => .failure reason
  | .answered r =>
    match r.refusal? with
    | some e => .refusal e
    | none =>
      match review? s (arrived r) with
      | some review => .review (statusOf review)
      | none => .failure "unreadable review"

namespace Received

/-- What a review says about its subject; one without a status does not allow. -/
def verdict (status : Option ReviewStatus) : Answer :=
  let status := status.getD {}
  if status.allowed then .allowed else .forbidden (status.reason.getD "")

/-- What is received, as an answer to the review: a server that may not be asked has denied. -/
def answer : Received → Answer
  | review status => verdict status
  | refusal e => if e.code = 403 then .forbidden e.message else .failed e.text
  | failure m => .failed m

end Received

/-- The answer to the review for a subject that an exchange gives. -/
def reviewAnswer (s : Subject) (x : Exchange) : Answer :=
  (received s x).answer

/-- The reviewer that asks an API server over a connection. The network says what becomes of the n-th request, if it
has come to an end. -/
def reviewer (c : Connection) (network : Nat → Request → Option Exchange) : Reviewer :=
  fun n a s => (network n (reviewRequest c a s)).map (reviewAnswer s)

end AccessGate.Api
