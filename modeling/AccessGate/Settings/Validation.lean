/-
Which settings are accepted. Skipping authorization is only for servers that nobody else reaches.
-/
import AccessGate.Network.SocketAddress
import AccessGate.Settings.Basic
import AccessGate.Settings.Error

namespace AccessGate.Settings

open Network (SocketAddress)

def checkServer (s : Server) : Except LoadError SocketAddress :=
  match SocketAddress.parse? s.httpAddr with
  | some a => .ok a
  | none => .error (.invalidValue "server.http_addr" ("invalid socket address: " ++ s.httpAddr))

def checkSkip (s : Authorization) (a : SocketAddress) : Except LoadError Unit :=
  if s.skipAuthorization && !a.ip.isLoopback then
    .error (.invalid ("authorization.skip_authorization requires a loopback server address, got " ++ a.text))
  else .ok ()

/-- No name of a namespace is blank, and none has blanks around it. -/
def checkNamespaces (s : Authorization) : Except LoadError Unit :=
  let field := "authorization.global_service_account_namespaces"
  if s.globalNamespaces.any Text.isAllBlank then
    .error (.invalidValue field "namespace names must not be empty")
  else
    match s.globalNamespaces.find? fun ns => Text.trim ns ≠ ns with
    | some ns =>
      .error (.invalidValue field ("namespace name " ++ Text.quoted ns ++ " has surrounding whitespace"))
    | none => .ok ()

def checkLogging (s : Logging) : Except LoadError Unit :=
  if s.enabled then
    match Telemetry.readDirectives s.level with
    | .ok _ => .ok ()
    | .error e => .error (.invalidValue "logging.level" e.text)
  else .ok ()

def checkMetrics (s : Metrics) : Except LoadError Unit :=
  if s.enabled && s.reviewDurationBuckets.isEmpty then
    .error (.invalidValue "metrics.review_duration_buckets" "at least one bucket is required")
  else .ok ()

/-- Accepts settings, or says what is wrong first. -/
def ApiSettings.validate (s : ApiSettings) : Except LoadError Unit := do
  let a ← checkServer s.server
  checkSkip s.authorization a
  checkNamespaces s.authorization
  checkLogging s.logging
  checkMetrics s.metrics

end AccessGate.Settings
