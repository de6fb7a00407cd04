/-
What logging and metrics are set up with.
-/
import AccessGate.Number.Binary64
import AccessGate.Telemetry.Directive
import AccessGate.Text.Quoted

namespace AccessGate.Telemetry

/-- How log lines are written. -/
inductive LogFormat where
  | json
  | pretty
deriving DecidableEq, Repr

namespace LogFormat

def name : LogFormat → String
  | json => "json"
  | pretty => "pretty"

def ofName? (s : String) : Option LogFormat :=
  [json, pretty].find? fun f => f.name == s

end LogFormat

/-- What logging is set up with. -/
structure LogOptions where
  enabled : Bool := true
  /-- Filter directives. -/
  level : String := "info"
  format : LogFormat := .json
  /-- Whether opening and closing a span is logged. -/
  spanEvents : Bool := false
  fileLineInfo : Bool := false
  includeTarget : Bool := true
deriving DecidableEq, Repr

namespace LogOptions

def production : LogOptions := {}

def development : LogOptions :=
  { level := "debug", format := .pretty, spanEvents := true, fileLineInfo := true }

end LogOptions

/-- The bounds of the buckets for durations of reviews, in seconds: 5 ms to 5 s. -/
def defaultBuckets : List Binary64 :=
  [(5, -3), (1, -2), (25, -3), (5, -2), (1, -1), (25, -2), (5, -1), (1, 0), (25, -1), (5, 0)].map
    fun d => Binary64.ofDecimal false d.1 d.2

/-- What metrics are set up with. -/
structure MetricsOptions where
  enabled : Bool := true
  buckets : List Binary64 := defaultBuckets
deriving DecidableEq, Repr

/-- How setting up fails. -/
inductive SetupError where
  | logging (message : String)
  | metrics (message : String)
deriving DecidableEq, Repr

namespace SetupError

def text : SetupError → String
  | logging m => "Failed to initialize logging: " ++ m
  | metrics m => "Failed to initialize metrics: " ++ m

def isLogging : SetupError → Bool
  | logging _ => true
  | metrics _ => false

end SetupError

/-- The directives of a filter. -/
def readDirectives (level : String) : Except SetupError (List Directive) :=
  match Directive.all level with
  | .ok ds => .ok ds
  | .error e => .error (.logging ("Invalid log level " ++ Text.quoted level ++ ": " ++ e.message))

end AccessGate.Telemetry
