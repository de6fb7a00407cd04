/-
The settings of an API server in front of the gate, in four sections. Sections and settings that a
document leaves out have their defaults; one that it names and that does not exist makes it unreadable.
-/
import AccessGate.Json.Record
import AccessGate.Options
import AccessGate.Telemetry.Options
import AccessGate.Text.Blank

namespace AccessGate.Settings

open Json (withDefault)

structure Server where
  httpAddr : String := "0.0.0.0:8080"
deriving DecidableEq, Repr

structure Authorization where
  skipAuthorization : Bool := false
  /-- Namespaces whose accounts are tried for every caller, in order. -/
  globalNamespaces : List String := []
deriving DecidableEq, Repr

structure Logging where
  enabled : Bool := true
  level : String := "info"
  format : Telemetry.LogFormat := .json
  spanEvents : Bool := false
  fileLineInfo : Bool := false
deriving DecidableEq, Repr

structure Metrics where
  enabled : Bool := true
  reviewDurationBuckets : List Binary64 := Telemetry.defaultBuckets
deriving DecidableEq, Repr

/-- All settings. -/
structure ApiSettings where
  server : Server := {}
  authorization : Authorization := {}
  logging : Logging := {}
  metrics : Metrics := {}
deriving DecidableEq, Repr

/-! ## Documents -/

/-- A number of a document in double precision. -/
def asNumber? : Json → Option Binary64
  | .int i => some (Binary64.ofInt i)
  | .float x => some x
  | _ => none

def asNumbers? (j : Json) : Option (List Binary64) :=
  j.asList?.bind fun xs => xs.mapM asNumber?

namespace Server

def ofJson? (j : Json) : Option Server := do
  let fields ← j.closedRecord? ["http_addr"]
  let d : Server := {}
  some { httpAddr := ← withDefault Json.asString? d.httpAddr fields "http_addr" }

def toJson (s : Server) : Json :=
  .object [("http_addr", .str s.httpAddr)]

end Server

namespace Authorization

/-- Reads the section; blanks around the names of namespaces are dropped. -/
def ofJson? (j : Json) : Option Authorization := do
  let fields ← j.closedRecord? ["skip_authorization", "global_service_account_namespaces"]
  let d : Authorization := {}
  let names ← withDefault Json.asStrings? d.globalNamespaces fields "global_service_account_namespaces"
  some {
    skipAuthorization := ← withDefault Json.asBool? d.skipAuthorization fields "skip_authorization"
    globalNamespaces := names.map Text.trim }

def toJson (s : Authorization) : Json :=
  .object [("skip_authorization", .bool s.skipAuthorization),
    ("global_service_account_namespaces", .strings s.globalNamespaces)]

end Authorization

namespace Logging

def formatOf? (j : Json) : Option Telemetry.LogFormat :=
  j.choice?.bind Telemetry.LogFormat.ofName?

def ofJson? (j : Json) : Option Logging := do
  let fields ← j.closedRecord? ["enabled", "level", "format", "span_events", "file_line_info"]
  let d : Logging := {}
  some {
    enabled := ← withDefault Json.asBool? d.enabled fields "enabled"
    level := ← withDefault Json.asString? d.level fields "level"
    format := ← withDefault formatOf? d.format fields "format"
    spanEvents := ← withDefault Json.asBool? d.spanEvents fields "span_events"
    fileLineInfo := ← withDefault Json.asBool? d.fileLineInfo fields "file_line_info" }

def toJson (s : Logging) : Json :=
  .object [("enabled", .bool s.enabled), ("level", .str s.level), ("format", .str s.format.name),
    ("span_events", .bool s.spanEvents), ("file_line_info", .bool s.fileLineInfo)]

/-- What logging is set up with. -/
def options (s : Logging) : Telemetry.LogOptions :=
  { enabled := s.enabled, level := s.level, format := s.format, spanEvents := s.spanEvents,
    fileLineInfo := s.fileLineInfo, includeTarget := true }

end Logging

namespace Metrics

def ofJson? (j : Json) : Option Metrics := do
  let fields ← j.closedRecord? ["enabled", "review_duration_buckets"]
  let d : Metrics := {}
  some {
    enabled := ← withDefault Json.asBool? d.enabled fields "enabled"
    reviewDurationBuckets := ← withDefault asNumbers? d.reviewDurationBuckets fields "review_duration_buckets" }

def toJson (s : Metrics) : Json :=
  .object [("enabled", .bool s.enabled), ("review_duration_buckets", .arr (s.reviewDurationBuckets.map .float))]

/-- What metrics are set up with. -/
def options (s : Metrics) : Telemetry.MetricsOptions :=
  ⟨s.enabled, s.reviewDurationBuckets⟩

end Metrics

namespace ApiSettings

def ofJson? (j : Json) : Option ApiSettings := do
  let fields ← j.closedRecord? ["server", "authorization", "logging", "metrics"]
  some {
    server := ← withDefault Server.ofJson? {} fields "server"
    authorization := ← withDefault Authorization.ofJson? {} fields "authorization"
    logging := ← withDefault Logging.ofJson? {} fields "logging"
    metrics := ← withDefault Metrics.ofJson? {} fields "metrics" }

def toJson (s : ApiSettings) : Json :=
  .object [("server", s.server.toJson), ("authorization", s.authorization.toJson),
    ("logging", s.logging.toJson), ("metrics", s.metrics.toJson)]

/-- What the gate is set up with. -/
def clientOptions (s : ApiSettings) : ClientOptions :=
  (s.authorization.globalNamespaces.map Text.trim).foldl ClientOptions.withGlobalNamespace
    (ClientOptions.withSkipAuthorization {} s.authorization.skipAuthorization)

/-! ## Presets -/

/-- For development: on the machine itself, nothing checked, everything shown. -/
def development : ApiSettings :=
  { server := { httpAddr := "127.0.0.1:8080" }
    authorization := { skipAuthorization := true }
    logging := { level := "debug", format := .pretty, spanEvents := true, fileLineInfo := true } }

def production : ApiSettings := {}

end ApiSettings

end AccessGate.Settings
