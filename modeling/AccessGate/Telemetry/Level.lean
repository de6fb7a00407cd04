/-
How much a log line matters, and how much a filter lets through.
-/
import AccessGate.Text.Case
import AccessGate.Text.Digit

namespace AccessGate.Telemetry

/-- How much a log line matters. -/
inductive Level where
  | error
  | warn
  | info
  | debug
  | trace
deriving DecidableEq, Repr

/-- Levels from the most important on. -/
def Level.rank : Level → Nat
  | error => 1
  | warn => 2
  | info => 3
  | debug => 4
  | trace => 5

def Level.name : Level → String
  | error => "ERROR"
  | warn => "WARN"
  | info => "INFO"
  | debug => "DEBUG"
  | trace => "TRACE"

/-- What a filter lets through: nothing, or everything up to a rank. -/
structure Threshold where
  rank : Nat
deriving DecidableEq, Repr

namespace Threshold

def off : Threshold := ⟨0⟩

def upTo (l : Level) : Threshold := ⟨l.rank⟩

def allows (t : Threshold) (l : Level) : Bool :=
  l.rank ≤ t.rank

def names : List (String × Threshold) :=
  [("", upTo .error), ("off", off), ("error", upTo .error), ("warn", upTo .warn), ("info", upTo .info),
    ("debug", upTo .debug), ("trace", upTo .trace)]

/-- The number that a text of digits, perhaps after a plus, writes. -/
def numeral? (s : List Char) : Option Nat :=
  let ds := match s with
    | '+' :: r => r
    | r => r
  if ds.isEmpty ∨ !ds.all Char.isDigit then none else some (Text.naturalOf 10 ds)

/-- A threshold by its number from 0 to 5 or by its name in letters of any case. -/
def ofText? (s : String) : Option Threshold :=
  match numeral? s.toList with
  | some n => if n ≤ 5 then some ⟨n⟩ else none
  | none => names.lookup (Text.toAsciiLower s)

end Threshold

end AccessGate.Telemetry
