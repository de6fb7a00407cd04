/-
The telemetry of a process. Logging and metrics can each be set up once; what happens before is neither
logged nor counted.
-/
import AccessGate.Telemetry.Exposition
import AccessGate.Telemetry.LogLine

namespace AccessGate.Telemetry

/-- What a process has set up, and the lines that it has logged. -/
structure Installation where
  logging : Option (LogOptions × Filter) := none
  recorder : Option Recorder := none
  lines : List LogLine := []
deriving Repr

namespace Installation

def setUpLogging (p : Installation) (o : LogOptions) : Except SetupError Unit × Installation :=
  if !o.enabled then (.ok (), p)
  else
    match readDirectives o.level with
    | .error e => (.error e, p)
    | .ok ds =>
      if p.logging.isSome then (.error (.logging "a global default trace dispatcher has already been set"), p)
      else (.ok (), { p with logging := some (o, .ofDirectives ds) })

def setUpMetrics (p : Installation) (o : MetricsOptions) : Except SetupError Unit × Installation :=
  if !o.enabled then (.ok (), p)
  else if o.buckets.isEmpty then (.error (.metrics "bucket bounds/quantiles cannot be empty"), p)
  else if p.recorder.isSome then
    (.error (.metrics ("failed to install exporter as global recorder: "
      ++ "attempted to set a recorder after the metrics system was already initialized")), p)
  else (.ok (), { p with recorder := some { buckets := o.buckets } })

/-- Sets up logging and then, if that succeeds, metrics. -/
def setUp (p : Installation) (l : LogOptions) (m : MetricsOptions) : Except SetupError Unit × Installation :=
  match p.setUpLogging l with
  | (.error e, p) => (.error e, p)
  | (.ok _, p) => p.setUpMetrics m

/-- Counts, if counting is set up. -/
def count (p : Installation) (f : Tally → Tally) : Installation :=
  { p with recorder := p.recorder.map fun r => { r with tally := f r.tally } }

/-- Logs and counts a decision. -/
def observe (p : Installation) (o : Operation) (d : Decision) : Installation :=
  let lines := match p.logging with
    | some (l, f) => if l.format = .json then decisionLines l f o d else []
    | none => []
  { p.count (·.add d) with lines := p.lines ++ lines }

/-- What is counted as lines, if counting is set up. -/
def exposition (p : Installation) (hideDurations : Bool) : Option (List String) × Installation :=
  match p.recorder with
  | none => (none, p)
  | some r =>
    let (lines, r) := r.lines hideDurations
    (some lines, { p with recorder := some r })

end Installation

/-- A duration in seconds, given in milliseconds. -/
def secondsOfMillis (ms : Nat) : Binary64 :=
  (Binary64.ofNat (ms / 1000)).add
    ((Binary64.ofNat (ms % 1000 * pow10 6)).div (Binary64.ofNat (pow10 9)))

end AccessGate.Telemetry
