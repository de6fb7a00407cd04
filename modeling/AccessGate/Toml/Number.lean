/-
Numbers of TOML. Single underscores may stand between digits. Integers have 64 bits with sign; floats
are the nearest double-precision numbers, and one above the range is refused. Numbers that a document
cannot hold become null.
-/
import AccessGate.Json.Basic
import AccessGate.Text.Digit

namespace AccessGate.Toml

open Text (isDigitOf naturalOf)

/-- Digits at the head of the input with single underscores between them; at least one. -/
def digitRun? (base : Nat) : List Char → Option (List Char × List Char)
  | [] => none
  | c :: rest =>
    if isDigitOf base c then
      match rest with
      | '_' :: rest' =>
        match digitRun? base rest' with
        | some r => some (c :: r.1, r.2)
        | none => some ([c], rest)
      | rest =>
        match digitRun? base rest with
        | some r => some (c :: r.1, r.2)
        | none => some ([c], rest)
    else none

/-- The sign at the head of the input: whether it is a minus. -/
def signOf : List Char → Bool × List Char
  | '+' :: r => (false, r)
  | '-' :: r => (true, r)
  | r => (false, r)

/-- The digits of a decimal integer, which has no leading zeros. -/
def decimalDigits? (s : List Char) : Option (List Char × List Char) :=
  match s with
  | '0' :: r => some (['0'], r)
  | r => digitRun? 10 r

/-- An integer of 64 bits. -/
def integerOf? (i : Int) : Option Json :=
  if -(pow2 63 : Int) ≤ i ∧ i < pow2 63 then some (.int i) else none

/-- Whether the digits of a base follow, as after `0x`. -/
def prefixedBase? : List Char → Option (Nat × List Char)
  | '0' :: 'x' :: r => some (16, r)
  | '0' :: 'o' :: r => some (8, r)
  | '0' :: 'b' :: r => some (2, r)
  | _ => none

def integer? (s : List Char) : Option (Json × List Char) :=
  match prefixedBase? s with
  | some (base, r) => do
    let (ds, rest) ← digitRun? base r
    let j ← integerOf? (naturalOf base ds)
    some (j, rest)
  | none => do
    let (negative, r) := signOf s
    let (ds, rest) ← decimalDigits? r
    let n := naturalOf 10 ds
    let j ← integerOf? (if negative then -(n : Int) else n)
    some (j, rest)

/-- What a document holds for a float. -/
def floatJson (x : Binary64) : Json :=
  if x.isFinite then .float x else .null

/-- The exponent at the head of the input. -/
def exponent? (s : List Char) : Option (Int × List Char) :=
  match s with
  | 'e' :: r | 'E' :: r =>
    let (negative, r) := signOf r
    (digitRun? 10 r).map fun d => (if negative then -(naturalOf 10 d.1 : Int) else naturalOf 10 d.1, d.2)
  | _ => none

/-- The fraction at the head of the input. -/
def fraction? (s : List Char) : Option (List Char × List Char) :=
  match s with
  | '.' :: r => digitRun? 10 r
  | _ => none

/-- What a float is made of: sign, digits and exponent of ten. -/
structure FloatParts where
  negative : Bool
  digits : List Char
  exponent : Int
deriving Repr

/-- A float with a fraction, an exponent or both. -/
def floatParts? (s : List Char) : Option (FloatParts × List Char) := do
  let (negative, r) := signOf s
  let (whole, r) ← decimalDigits? r
  match fraction? r with
  | some (frac, r) =>
    let (e, r) := (exponent? r).getD (0, r)
    some (⟨negative, whole ++ frac, e - frac.length⟩, r)
  | none => do
    let (e, r) ← exponent? r
    some (⟨negative, whole, e⟩, r)

/-- The nearest number; none above the range. -/
def FloatParts.toBinary64? (p : FloatParts) : Option Binary64 :=
  let x := Binary64.ofDecimal p.negative (naturalOf 10 p.digits) p.exponent
  if x = Binary64.infinity false then none else some x

def specialFloat? (s : List Char) : Option (Json × List Char) :=
  match (signOf s).2 with
  | 'i' :: 'n' :: 'f' :: r | 'n' :: 'a' :: 'n' :: r => some (.null, r)
  | _ => none

/-- A float or an integer. -/
def number? (s : List Char) : Option (Json × List Char) :=
  match floatParts? s with
  | some (p, rest) => p.toBinary64?.map fun x => (floatJson x, rest)
  | none => (specialFloat? s).or (integer? s)

end AccessGate.Toml
