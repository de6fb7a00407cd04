/-
Reading numbers of documents. A number without point and exponent is an integer if 64 bits hold it. Any
other number is computed in double precision from its leading digits, as many as 64 bits hold, and a
power of ten; one beyond the range has no value, though it can be passed over.
-/
import AccessGate.Json.Basic
import AccessGate.Text.Digit

namespace AccessGate.Json

/-- Why a document cannot be read from a text. -/
inductive Fault where
  /-- The text ends too early. -/
  | cutOff
  /-- The text is no document, or not one that was asked for. -/
  | unfit
deriving DecidableEq, Repr

/-- A piece of a text: what it stands for, and what follows it. Where nothing is wanted of the piece, only
what follows counts. -/
structure Piece (α : Type) where
  value : Except Fault α
  rest : Except Fault (List Char)

namespace Piece

/-- No piece, for a reason that holds either way. -/
def fault {α : Type} (f : Fault) : Piece α :=
  ⟨.error f, .error f⟩

/-- No number where digits have to follow: a text that ends there is cut off for who reads the number, and
unfit for who passes over it. -/
def undigited {α : Type} : List Char → Piece α
  | [] => ⟨.error .cutOff, .error .unfit⟩
  | _ => fault .unfit

end Piece

/-- A number being read: leading digits, how many places they stand to the left, and whether a digit
was seen that no longer fits. -/
structure Mantissa where
  digits : Nat
  places : Int
  full : Bool

/-- Takes one more digit. Once 64 bits are full, further digits before the point only count as places and
those after it are dropped; the first digits after the point are taken if they fit. -/
def Mantissa.push (m : Mantissa) (afterPoint : Bool) (d : Nat) : Mantissa :=
  if m.full || pow2 64 ≤ m.digits * 10 + d then
    { m with full := true, places := if afterPoint then m.places else m.places + 1 }
  else { m with digits := m.digits * 10 + d, places := if afterPoint then m.places - 1 else m.places }

/-- Takes the digits at the head of the input. -/
def takeDigits (afterPoint : Bool) (m : Mantissa) : List Char → Mantissa × List Char
  | [] => (m, [])
  | c :: rest =>
    match Text.digitValue? 10 c with
    | some d => takeDigits afterPoint (m.push afterPoint d) rest
    | none => (m, c :: rest)

/-- The largest exponent that is read digit by digit. -/
def maxExponent : Nat := pow2 31 - 1

/-- The powers of ten from 1 to 10^308 as double-precision numbers. -/
def powerOfTen (n : Nat) : Binary64 :=
  Binary64.ofDecimal false 1 n

/-- The magnitude of digits · 10^exponent, in double precision: one product or quotient with a power
of ten, after dividing by 10^308 as long as the exponent lies below the table. -/
def scaleByTen : Nat → Binary64 → Int → Option Binary64
  | 0, f, _ => some f
  | fuel + 1, f, e =>
    if e.natAbs ≤ 308 then
      if 0 ≤ e then
        let p := f.mul (powerOfTen e.toNat)
        if p.isFinite then some p else none
      else some (f.div (powerOfTen e.natAbs))
    else if f.significand = 0 then some f
    else if 0 ≤ e then none
    else scaleByTen fuel (f.div (powerOfTen 308)) (e + 308)

def floatOfParts (negative : Bool) (digits : Nat) (exponent : Int) : Except Fault Json :=
  -- Three divisions by 10^308 leave nothing of 64 bits of digits.
  match scaleByTen 5 (Binary64.ofNat digits) exponent with
  | some f => .ok (.float (if negative then f.neg else f))
  | none => .error .unfit

/-- The exponent after its `e`, then the number. -/
def exponentPart (negative : Bool) (m : Mantissa) (s : List Char) : Piece Json :=
  let (down, s) := match s with
    | '+' :: r => (false, r)
    | '-' :: r => (true, r)
    | r => (false, r)
  let ds := s.takeWhile Char.isDigit
  let rest := s.dropWhile Char.isDigit
  if ds.isEmpty then .undigited s
  else
    let e := Text.naturalOf 10 ds
    let value :=
      if maxExponent < e then
        if m.digits ≠ 0 ∧ !down then .error .unfit else .ok (.float (Binary64.zero negative))
      else floatOfParts negative m.digits (m.places + if down then -(e : Int) else e)
    ⟨value, .ok rest⟩

/-- The fraction after its point, then the number. -/
def fractionPart (negative : Bool) (m : Mantissa) (s : List Char) : Piece Json :=
  let (m', rest) := takeDigits true { m with full := false } s
  if rest.length = s.length then .undigited s
  else
    match rest with
    | 'e' :: r | 'E' :: r => exponentPart negative m' r
    | r => ⟨floatOfParts negative m'.digits m'.places, .ok r⟩

/-- The value of a number without point and exponent. -/
def wholeNumber (negative : Bool) (m : Mantissa) : Except Fault Json :=
  if m.full then floatOfParts negative m.digits m.places
  else if !negative then .ok (.int m.digits)
  else if m.digits = 0 ∨ pow2 63 < m.digits then .ok (.float (Binary64.ofNat m.digits).neg)
  else .ok (.int (-(m.digits : Int)))

/-- A number whose sign has been read. -/
def number (negative : Bool) (s : List Char) : Piece Json :=
  let (m, rest) := takeDigits false ⟨0, 0, false⟩ s
  let length := s.length - rest.length
  if length = 0 then .undigited s
  else if s.head? = some '0' ∧ 1 < length then .fault .unfit
  else
    match rest with
    | '.' :: r => fractionPart negative m r
    | 'e' :: r | 'E' :: r => exponentPart negative m r
    | r => ⟨wholeNumber negative m, .ok r⟩

end AccessGate.Json
