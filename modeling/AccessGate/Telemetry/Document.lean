/-
What telemetry is set up with, and what is counted, as documents.
-/
import AccessGate.Json.Fields
import AccessGate.Settings.Basic
import AccessGate.Telemetry.Tally

namespace AccessGate.Telemetry

/-- Log options: a preset, and what is given besides. -/
def LogOptions.ofJson (j : Json) : LogOptions :=
  let base := if j.textAt "preset" = "development" then LogOptions.development else .production
  { enabled := (j.flagAt? "enabled").getD base.enabled
    level := (j.textAt? "level").getD base.level
    format := ((j.textAt? "format").bind LogFormat.ofName?).getD base.format
    spanEvents := (j.flagAt? "span_events").getD base.spanEvents
    fileLineInfo := (j.flagAt? "file_line_info").getD base.fileLineInfo
    includeTarget := (j.flagAt? "include_target").getD base.includeTarget }

/-- Numbers of a list; what is no number is passed over. -/
def numbersAt? (j : Json) (k : String) : Option (List Binary64) :=
  (j.field k).asList?.map (·.filterMap Settings.asNumber?)

def MetricsOptions.ofJson (j : Json) : MetricsOptions :=
  { enabled := (j.flagAt? "enabled").getD true
    buckets := (numbersAt? j "buckets").getD defaultBuckets }

def SetupError.toJson (e : SetupError) : Json :=
  .object [("error", .str (if e.isLogging then "LoggingInit" else "MetricsInit")), ("message", .str e.text)]

/-- The name of a count: its metric with its labels in the order of their names. -/
def countName (m : Metric) (values : List String) : String :=
  let labels := (m.labels.zip values).mergeSort fun a b => decide (a.1 ≤ b.1)
  m.name ++ "\x7b" ++ ",".intercalate (labels.map fun l => l.1 ++ "=" ++ l.2) ++ "\x7d"

/-- All counts by name; of durations, how many there were. -/
def Tally.toJson (t : Tally) : Json :=
  .object ((t.counts.map fun c => (countName c.1 c.2.1, .int c.2.2))
    ++ t.durations.map fun c => (countName durationsMetric [c.1], .int c.2.length))

end AccessGate.Telemetry
