/-
Loaded settings and failures to load them as documents.
-/
import AccessGate.Settings.Basic
import AccessGate.Settings.Error

namespace AccessGate.Settings

/-- The name of a kind of failure. -/
def LoadError.kind : LoadError → String
  | fileNotFound _ => "FileNotFound"
  | unreadable _ => "ReadError"
  | toml => "TomlError"
  | document => "JsonError"
  | invalidValue .. => "InvalidValue"
  | environment .. => "EnvParseError"
  | invalid _ => "ValidationError"
  | panicked => "Panicked"

def LoadError.toJson (e : LoadError) : Json :=
  .object ([("error", .str e.kind)] ++ Json.member? "message" (e.message?.map .str))

end AccessGate.Settings

namespace AccessGate.Telemetry

def LogOptions.toJson (o : LogOptions) : Json :=
  .object [("enabled", .bool o.enabled), ("level", .str o.level), ("format", .str o.format.name),
    ("span_events", .bool o.spanEvents), ("file_line_info", .bool o.fileLineInfo),
    ("include_target", .bool o.includeTarget)]

def MetricsOptions.toJson (o : MetricsOptions) : Json :=
  .object [("enabled", .bool o.enabled), ("buckets", .arr (o.buckets.map .float))]

end AccessGate.Telemetry

namespace AccessGate.Settings

/-- Settings with what the gate and the telemetry are set up with by them. -/
def ApiSettings.report (s : ApiSettings) : Json :=
  .object [("config", s.toJson), ("client_options", s.clientOptions.toJson),
    ("telemetry", .object [("logging", s.logging.options.toJson), ("metrics", s.metrics.options.toJson)])]

end AccessGate.Settings
