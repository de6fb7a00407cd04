/-
The fewest decimal digits that read back as a given number. The reals that round to m · 2^e form an
interval around it, ends included exactly if m is even; of the decimal grids, from one digit on, the
first that has a point in the interval is taken, and of its points the nearest.
-/
import AccessGate.Number.Binary64

namespace AccessGate.Binary64

/-- Decimal digits and an exponent: the value is digits · 10^exponent. -/
structure Decimal where
  digits : Nat
  exponent : Int
deriving DecidableEq, Inhabited, Repr

/-- The reals that round to a number, measured in steps of a decimal grid: from `low / den` to
`high / den` around `mid / den`, the ends included if `ends` holds. -/
structure Window where
  low : Nat
  mid : Nat
  high : Nat
  den : Nat
  ends : Bool

/-- The window of a positive finite number on the grid 10^k. Below a power of two the gap is half
as wide, except at the bottom of the range. -/
def window (x : Binary64) (k : Int) : Window :=
  let m := x.significand
  let narrow := x.fractionField = 0 ∧ 1 < x.exponentField
  let mid := 4 * m
  let low := if narrow then mid - 1 else mid - 2
  let high := mid + 2
  let e := x.scale - 2
  let up := (if 0 ≤ e then pow2 e.toNat else 1) * (if 0 ≤ k then 1 else pow10 (-k).toNat)
  let down := (if 0 ≤ e then 1 else pow2 (-e).toNat) * (if 0 ≤ k then pow10 k.toNat else 1)
  { low := low * up, mid := mid * up, high := high * up, den := down, ends := m % 2 == 0 }

/-- Whether the grid point d lies in the window. -/
def Window.holds (w : Window) (d : Nat) : Bool :=
  let p := d * w.den
  if w.ends then w.low ≤ p && p ≤ w.high else w.low < p && p < w.high

/-- The nearer of the grid's two neighbours of the number that lie in the window. -/
def Window.pick? (w : Window) : Option Nat :=
  let d := w.mid / w.den
  let below := w.holds d && 0 < d
  let above := w.holds (d + 1)
  match below, above with
  | false, false => none
  | true, false => some d
  | false, true => some (d + 1)
  | true, true =>
    let down := w.mid - d * w.den
    let up := (d + 1) * w.den - w.mid
    if down < up || (down == up && d % 2 == 0) then some d else some (d + 1)

/-- Tries the grids with n, n + 1, … digits, the first digit standing at 10^top. -/
def searchGrid (x : Binary64) (top : Int) : Nat → Int → Decimal
  | 0, n => ⟨x.significand, top - n⟩
  | fuel + 1, n =>
    let k := top - n + 1
    match (window x k).pick? with
    | some d => ⟨d, k⟩
    | none => searchGrid x top fuel (n + 1)

/-- Digits without trailing zeros. -/
def trimZeros : Nat → Decimal → Decimal
  | 0, d => d
  | fuel + 1, d =>
    if d.digits ≠ 0 ∧ d.digits % 10 = 0 then trimZeros fuel ⟨d.digits / 10, d.exponent + 1⟩ else d

/-- The exponent of the first decimal digit of a positive finite number. -/
def leadingPlace (x : Binary64) : Int :=
  let r := x.ratio
  let whole := r.1 / r.2
  if 0 < whole then ((Nat.toDigits 10 whole).length : Int) - 1
  else
    -- Below one: count the places until a digit appears.
    let inverse := (r.2 + r.1 - 1) / r.1
    Int.negOfNat (Nat.toDigits 10 (inverse - 1)).length

/-- The fewest digits that read back as the magnitude of a finite number. -/
def shortest (x : Binary64) : Decimal :=
  if x.significand = 0 then ⟨0, 0⟩ else trimZeros 20 (searchGrid x (leadingPlace x) 17 1)

/-! ## Written forms -/

def digitText (n : Nat) : List Char :=
  Nat.toDigits 10 n

def zeros (n : Nat) : List Char :=
  List.replicate n '0'

/-- Digits with the decimal point after the given number of them, which may be none or too many;
`whole` follows a number that has no fraction. -/
def positional (ds : List Char) (point : Int) (whole : List Char) : List Char :=
  if point ≤ 0 then '0' :: '.' :: (zeros (-point).toNat ++ ds)
  else if (ds.length : Int) ≤ point then ds ++ zeros (point.toNat - ds.length) ++ whole
  else ds.take point.toNat ++ '.' :: ds.drop point.toNat

/-- One digit, the point, the other digits and the exponent. -/
def scientific (ds : List Char) (point : Int) : List Char :=
  let e := point - 1
  let exponent := 'e' :: ((if e < 0 then ['-'] else []) ++ digitText e.natAbs)
  match ds with
  | [] => '0' :: exponent
  | [d] => d :: exponent
  | d :: rest => d :: '.' :: (rest ++ exponent)

/-- The text of a number in a data document: positional between 1e-5 and 1e16, and a whole number
keeps `.0`. -/
def documentText (x : Binary64) : String :=
  let d := shortest x
  let ds := digitText d.digits
  let point : Int := ds.length + d.exponent
  let body :=
    if d.digits = 0 then ['0', '.', '0']
    else if -5 < point ∧ point ≤ 16 then positional ds point ['.', '0']
    else scientific ds point
  String.ofList (if x.isNegative then '-' :: body else body)

/-- The text of a number in a metrics exposition: always positional, whole numbers without a
fraction. -/
def plainText (x : Binary64) : String :=
  if x.isNaN then "NaN"
  else if !x.isFinite then (if x.isNegative then "-inf" else "inf")
  else
    let d := shortest x
    let ds := digitText d.digits
    let body := if d.digits = 0 then ['0'] else positional ds (ds.length + d.exponent) []
    String.ofList (if x.isNegative then '-' :: body else body)

end AccessGate.Binary64
