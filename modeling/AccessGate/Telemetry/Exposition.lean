/-
What is counted as lines of text. A metric is described once there is something to say about it. A
duration counts in the first bucket whose bound it does not pass, and in all buckets after that.
-/
import AccessGate.Number.Shortest
import AccessGate.Telemetry.Tally

namespace AccessGate.Telemetry

/-- Durations by buckets. -/
structure Distribution where
  bounds : List Binary64
  counts : List Nat
  sum : Binary64 := Binary64.zero false
  count : Nat := 0
deriving DecidableEq, Repr

namespace Distribution

def ofBounds (bounds : List Binary64) : Distribution :=
  { bounds, counts := bounds.map fun _ => 0 }

/-- Which buckets a duration counts in. -/
def hits (bounds : List Binary64) (x : Binary64) : List Nat :=
  let below := (bounds.takeWhile fun b => !x.le b).length
  List.replicate below 0 ++ List.replicate (bounds.length - below) 1

/-- How many durations are kept together until lines are written. -/
def blockSize : Nat := 64

/-- Adds durations that were kept together: their own sum is taken first. -/
def addBlock (d : Distribution) (xs : List Binary64) : Distribution :=
  { d with
    counts := xs.foldl (fun cs x => List.zipWith (· + ·) cs (hits d.bounds x)) d.counts
    sum := d.sum.add (xs.foldl Binary64.add (Binary64.zero false))
    count := d.count + xs.length }

/-- Puts a duration with those kept together last, or in a new block if that one is full. -/
def keep (blocks : List (List Binary64)) (x : Binary64) : List (List Binary64) :=
  match blocks with
  | block :: rest => if block.length < blockSize then (block ++ [x]) :: rest else [x] :: block :: rest
  | [] => [[x]]

/-- Adds durations, given from the first to the last. The block that was begun last is added first. -/
def add (d : Distribution) (xs : List Binary64) : Distribution :=
  (xs.foldl keep []).foldl addBlock d

end Distribution

/-- What is counted since counting began. The tally holds the durations since lines were last written. -/
structure Recorder where
  buckets : List Binary64
  tally : Tally := {}
  distributions : Assoc String Distribution := []
deriving Repr

namespace Recorder

/-- The value of a label as it stands between quotes. A backslash may already escape what follows it, so
it is held back: two of them are one escaped backslash, one before a quote is the quote's own, and any other
is escaped before the next plain character or at the end. -/
def labelChars (held : Bool) : List Char → List Char
  | [] => if held then ['\\', '\\'] else []
  | '\n' :: rest => '\\' :: 'n' :: labelChars held rest
  | '"' :: rest => '\\' :: '"' :: labelChars false rest
  | '\\' :: rest => if held then '\\' :: '\\' :: labelChars false rest else labelChars true rest
  | c :: rest => if held then '\\' :: '\\' :: c :: labelChars false rest else c :: labelChars false rest

/-- The value of a label between quotes. -/
def labelText (s : String) : String :=
  "\"" ++ String.ofList (labelChars false s.toList) ++ "\""

def sampleLine (name : String) (labels : List (String × String)) (value : String) : String :=
  name ++ "\x7b" ++ ",".intercalate (labels.map fun l => l.1 ++ "=" ++ labelText l.2) ++ "\x7d " ++ value

/-- The lines that describe a metric. -/
def describe (m : Metric) (type : String) : List String :=
  ["# HELP " ++ m.name ++ " " ++ m.help, "# TYPE " ++ m.name ++ " " ++ type]

def counterLines (r : Recorder) (m : Metric) : List String :=
  let samples := r.tally.counts.filter fun c => c.1 = m
  if samples.isEmpty then []
  else describe m "counter"
    ++ samples.map fun c => sampleLine m.name (m.labels.zip c.2.1) (toString c.2.2)

/-- The lines of one distribution; `hideDurations` leaves out what depends on the time that passed. -/
def distributionLines (hideDurations : Bool) (subject : String) (d : Distribution) : List String :=
  let name := durationsMetric.name
  let labels := [("subject", subject)]
  let bucket (bound : String) (n : Nat) := sampleLine (name ++ "_bucket") (labels ++ [("le", bound)]) (toString n)
  let timed :=
    (d.bounds.zip d.counts).map (fun b => bucket b.1.plainText b.2)
      ++ [bucket "+Inf" d.count, sampleLine (name ++ "_sum") labels d.sum.plainText]
  (if hideDurations then [] else timed) ++ [sampleLine (name ++ "_count") labels (toString d.count)]

/-- The recorder with the durations of its tally in its distributions. -/
def settled (r : Recorder) : Recorder :=
  { r with
    tally := { r.tally with durations := [] }
    distributions := r.tally.durations.foldl (fun ds b =>
      ds.insert b.1 (((ds.get? b.1).getD (.ofBounds r.buckets)).add b.2.reverse)) r.distributions }

/-- All lines in the order of their text, and the recorder after they were written. -/
def lines (r : Recorder) (hideDurations : Bool) : List String × Recorder :=
  let r := r.settled
  let durations := r.distributions.flatMap fun b => distributionLines hideDurations b.1 b.2
  let all := r.counterLines decisionsMetric ++ r.counterLines reviewsMetric
    ++ (if durations.isEmpty then [] else describe durationsMetric "histogram" ++ durations)
  (all.mergeSort fun a b => decide (a ≤ b), r)

end Recorder

end AccessGate.Telemetry
