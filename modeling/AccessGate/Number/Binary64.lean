/-
Double-precision numbers by their bits, and rounding of exact ratios to them. All arithmetic is on
`Nat` and `Int`: a finite number is m · 2^e, and a ratio rounds to the nearest such number, a tie
going to the even significand.
-/
import AccessGate.Number.Power

namespace AccessGate

/-- A double-precision number, given by its IEEE 754 bits. -/
structure Binary64 where
  bits : UInt64
deriving DecidableEq, Inhabited, Repr

namespace Binary64

/-- The biased exponent field. -/
def exponentField (x : Binary64) : Nat :=
  (x.bits.toNat / pow2 52) % pow2 11

/-- The fraction field. -/
def fractionField (x : Binary64) : Nat :=
  x.bits.toNat % pow2 52

/-- The sign bit. -/
def isNegative (x : Binary64) : Bool :=
  decide (pow2 63 ≤ x.bits.toNat)

/-- Neither infinite nor a NaN. -/
def isFinite (x : Binary64) : Bool :=
  x.exponentField ≠ 2047

def isNaN (x : Binary64) : Bool :=
  x.exponentField == 2047 && x.fractionField ≠ 0

/-- The significand m of a finite magnitude m · 2^e. -/
def significand (x : Binary64) : Nat :=
  if x.exponentField = 0 then x.fractionField else x.fractionField + pow2 52

/-- The exponent e of a finite magnitude m · 2^e. -/
def scale (x : Binary64) : Int :=
  (if x.exponentField = 0 then 1 else x.exponentField : Nat) - 1075

/-- The number with the given sign and the given magnitude bits. -/
def ofMagnitude (negative : Bool) (magnitude : Nat) : Binary64 :=
  ⟨(if negative then magnitude + pow2 63 else magnitude).toUInt64⟩

def infinity (negative : Bool) : Binary64 :=
  ofMagnitude negative (2047 * pow2 52)

def nan (negative : Bool) : Binary64 :=
  ofMagnitude negative (2047 * pow2 52 + pow2 51)

def zero (negative : Bool) : Binary64 :=
  ofMagnitude negative 0

def neg (x : Binary64) : Binary64 :=
  if x.isNegative then ⟨(x.bits.toNat - pow2 63).toUInt64⟩ else ⟨(x.bits.toNat + pow2 63).toUInt64⟩

/-- The quotient rounded to the nearest integer, a tie going to the even one. -/
def divideToEven (num den : Nat) : Nat :=
  let q := num / den
  let r := num % den
  if 2 * r > den || (2 * r == den && q % 2 == 1) then q + 1 else q

/-- The largest k with 2^k ≤ num / den, for positive num and den. -/
def floorLog2 (num den : Nat) : Int :=
  let guess : Int := (num.log2 : Int) - den.log2
  let fits : Bool :=
    if 0 ≤ guess then den * pow2 guess.toNat ≤ num else den ≤ num * pow2 (-guess).toNat
  if fits then guess else guess - 1

/-- The number nearest to ± num / den, a tie going to the even significand; beyond the largest
finite number it is infinite. -/
def ofRatio (negative : Bool) (num den : Nat) : Binary64 :=
  if num = 0 then zero negative
  else
    let e := max (floorLog2 num den) (-1022) - 52
    let q := if 0 ≤ e then divideToEven num (den * pow2 e.toNat) else divideToEven (num * pow2 (-e).toNat) den
    -- Field and fraction add up: a significand of 53 bits carries into the exponent field.
    let magnitude := (e + 1074).toNat * pow2 52 + q
    if 2047 * pow2 52 ≤ magnitude then infinity negative else ofMagnitude negative magnitude

/-- The magnitude of a finite number as an exact ratio. -/
def ratio (x : Binary64) : Nat × Nat :=
  if 0 ≤ x.scale then (x.significand * pow2 x.scale.toNat, 1) else (x.significand, pow2 (-x.scale).toNat)

/-- The nearest number to ± digits · 10^exponent. -/
def ofDecimal (negative : Bool) (digits : Nat) (exponent : Int) : Binary64 :=
  -- Beyond these exponents every number of digits read here has overflowed or vanished.
  let length : Int := (Nat.toDigits 10 digits).length
  if digits = 0 then zero negative
  else if exponent + length > 400 then infinity negative
  else if exponent + length < -400 then zero negative
  else if 0 ≤ exponent then ofRatio negative (digits * pow10 exponent.toNat) 1
  else ofRatio negative digits (pow10 (-exponent).toNat)

def ofNat (n : Nat) : Binary64 :=
  ofRatio false n 1

def ofInt (i : Int) : Binary64 :=
  ofRatio (decide (i < 0)) i.natAbs 1

/-- The product of two finite numbers, rounded. -/
def mul (x y : Binary64) : Binary64 :=
  let a := x.ratio
  let b := y.ratio
  ofRatio (x.isNegative != y.isNegative) (a.1 * b.1) (a.2 * b.2)

/-- The quotient of two finite numbers, the second not zero, rounded. -/
def div (x y : Binary64) : Binary64 :=
  let a := x.ratio
  let b := y.ratio
  ofRatio (x.isNegative != y.isNegative) (a.1 * b.2) (a.2 * b.1)

/-- The signed numerator of a finite number over the denominator 2^1074. -/
def scaled (x : Binary64) : Int :=
  let m : Int := x.significand * pow2 (x.scale + 1074).toNat
  if x.isNegative then -m else m

/-- The sum of two finite numbers, rounded. -/
def add (x y : Binary64) : Binary64 :=
  let s := x.scaled + y.scaled
  if s = 0 then zero (x.isNegative && y.isNegative)
  else ofRatio (decide (s < 0)) s.natAbs (pow2 1074)

/-- The order of finite and infinite numbers; nothing is below or above a NaN. -/
def le (x y : Binary64) : Bool :=
  !x.isNaN && !y.isNaN && decide (x.scaled ≤ y.scaled)

end Binary64

end AccessGate
