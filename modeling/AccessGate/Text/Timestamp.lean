/-
Points in time as text. Reading is lenient: blanks may stand before a number and around a colon, date
and time may be parted by a blank, and any offset from universal time is taken. Writing gives
universal time to the second or to the microsecond; what is finer is dropped.
-/
import AccessGate.Number.Power
import AccessGate.Text.Blank
import AccessGate.Text.Digit

namespace AccessGate.Text

/-- A point in time: seconds since the start of 1970 and nanoseconds, which pass 10^9 in a leap
second. -/
structure Timestamp where
  seconds : Int
  nanos : Nat
deriving DecidableEq, Repr, Inhabited

namespace Timestamp

/-! ## Calendar -/

def isLeap (y : Int) : Bool :=
  y % 4 = 0 && (y % 100 ≠ 0 || y % 400 = 0)

def daysInMonth (y : Int) (m : Nat) : Nat :=
  if m = 2 then (if isLeap y then 29 else 28)
  else if m = 4 ∨ m = 6 ∨ m = 9 ∨ m = 11 then 30 else 31

/-- The number of a day, counted from the first of January 1970. -/
def dayNumber (y : Int) (m d : Nat) : Int :=
  let y := if m ≤ 2 then y - 1 else y
  let era := y.fdiv 400
  let yearOfEra := y - era * 400
  let dayOfYear : Int := ((153 * ((m : Int) + (if 2 < m then -3 else 9)) + 2) / 5) + d - 1
  let dayOfEra := yearOfEra * 365 + yearOfEra / 4 - yearOfEra / 100 + dayOfYear
  era * 146097 + dayOfEra - 719468

/-- The year of a day, both counted within a period of 400 years. -/
def yearOf (d : Int) : Int :=
  (d - d / 1460 + d / 36524 - d / 146096) / 365

/-- The first day of a year, both counted within a period of 400 years. -/
def firstDay (y : Int) : Int :=
  365 * y + y / 4 - y / 100

/-- The month, and the day in it, of a day of a year that starts with March. -/
def monthAndDay (dayOfYear : Int) : Nat × Nat :=
  let mp := (5 * dayOfYear + 2) / 153
  ((if mp < 10 then mp + 3 else mp - 9).toNat, (dayOfYear - (153 * mp + 2) / 5 + 1).toNat)

/-- Year, month and day of a day number. -/
def dateOfDay (n : Int) : Int × Nat × Nat :=
  let z := n + 719468
  let era := z.fdiv 146097
  let dayOfEra := z - era * 146097
  let (m, d) := monthAndDay (dayOfEra - firstDay (yearOf dayOfEra))
  (yearOf dayOfEra + era * 400 + (if m ≤ 2 then 1 else 0), m, d)

/-! ## Reading -/

/-- At most `width` digits after blanks, at least one. -/
def number? (width : Nat) (s : List Char) : Option (Nat × List Char) :=
  let s := s.dropWhile isBlank
  let ds := (s.takeWhile Char.isDigit).take width
  if ds.isEmpty then none else some (naturalOf 10 ds, s.drop ds.length)

/-- A year: four digits at most, or a sign and, right after it, any number of digits. -/
def year? (s : List Char) : Option (Int × List Char) :=
  let signed (sign : Int) (r : List Char) : Option (Int × List Char) :=
    if r.head?.any Char.isDigit then (number? r.length r).map fun n => (sign * n.1, n.2) else none
  match s.dropWhile isBlank with
  | '-' :: r => signed (-1) r
  | '+' :: r => signed 1 r
  | r => (number? 4 r).map fun n => ((n.1 : Int), n.2)

/-- A mark, blanks before it skipped. -/
def mark? (c : Char) (s : List Char) : Option (List Char) :=
  match s.dropWhile isBlank with
  | [] => none
  | d :: rest => if c = d then some rest else none

/-- The fraction of a second in nanoseconds, if there is one; digits past the ninth are dropped. -/
def fraction? (s : List Char) : Option (Nat × List Char) :=
  match s with
  | '.' :: r =>
    let ds := r.takeWhile Char.isDigit
    if ds.isEmpty then none
    else some (naturalOf 10 (ds.take 9) * pow10 (9 - (ds.take 9).length), r.dropWhile Char.isDigit)
  | r => some (0, r)

def pair? : List Char → Option (Nat × List Char)
  | a :: b :: rest => if a.isDigit ∧ b.isDigit then some (naturalOf 10 [a, b], rest) else none
  | _ => none

/-- An offset from universal time after its sign. -/
def signedOffset? (negative : Bool) (s : List Char) : Option (Int × List Char) := do
  let (h, s) ← pair? s
  let (m, s) ← pair? (s.dropWhile fun c => c = ':' || isBlank c)
  if m < 60 ∧ h < 24 then
    let seconds : Int := h * 3600 + m * 60
    some (if negative then -seconds else seconds, s)
  else none

/-- The offset from universal time in seconds. -/
def offset? (s : List Char) : Option (Int × List Char) :=
  match s.dropWhile isBlank with
  | 'Z' :: r | 'z' :: r => some (0, r)
  | u :: t :: c :: r =>
    if [u.toUpper, t.toUpper, c.toUpper] = ['U', 'T', 'C'] then some (0, r)
    else if u = '+' then signedOffset? false (t :: c :: r)
    else if u = '-' ∨ u.toNat = 0x2212 then signedOffset? true (t :: c :: r)
    else none
  | _ => none

/-- The first and the last year of the calendar. -/
def firstYear : Int := -262143

def lastYear : Int := 262142

/-- Whether a day lies within the years of the calendar. -/
def inCalendar (day : Int) : Bool :=
  dayNumber firstYear 1 1 ≤ day && day ≤ dayNumber lastYear 12 31

/-- The point in time that a date and a text for the time of that day stand for. Both the date and the
day in universal time have to lie within the calendar. -/
def clock? (y : Int) (mo d : Nat) (s : List Char) : Option Timestamp := do
  let (h, s) ← number? 2 s
  let s ← mark? ':' s
  let (mi, s) ← number? 2 s
  let s ← mark? ':' s
  let (sec, s) ← number? 2 s
  let (nanos, s) ← fraction? s
  let (off, s) ← offset? s
  if s.all isBlank ∧ 1 ≤ mo ∧ mo ≤ 12 ∧ 1 ≤ d ∧ d ≤ daysInMonth y mo ∧ h < 24 ∧ mi < 60 ∧ sec ≤ 60 then
    let leap := sec = 60
    let time : Int := h * 3600 + mi * 60 + (if leap then 59 else sec : Nat)
    let day := dayNumber y mo d
    let seconds := day * 86400 + time - off
    if inCalendar day ∧ inCalendar (seconds.fdiv 86400) then
      some ⟨seconds, if leap then nanos + pow10 9 else nanos⟩
    else none
  else none

/-- The point in time that a text stands for. -/
def parse? (text : String) : Option Timestamp := do
  let (y, s) ← year? text.toList
  let s ← mark? '-' s
  let (mo, s) ← number? 2 s
  let s ← mark? '-' s
  let (d, s) ← number? 2 s
  match s with
  | 'T' :: r | 't' :: r | ' ' :: r => clock? y mo d r
  | _ => none

/-! ## Writing -/

/-- Digits filled up with zeros on the left. -/
def padded (width n : Nat) : List Char :=
  let ds := Nat.toDigits 10 n
  List.replicate (width - ds.length) '0' ++ ds

def yearChars (y : Int) : List Char :=
  if 0 ≤ y ∧ y ≤ 9999 then padded 4 y.natAbs
  else (if y < 0 then '-' else '+') :: padded 4 y.natAbs

/-- Universal time with the given text for the fraction of a second. -/
def renderWith (fraction : Nat → List Char) (t : Timestamp) : String :=
  let day := t.seconds.fdiv 86400
  let rest := (t.seconds - day * 86400).toNat
  let (y, m, d) := dateOfDay day
  let sec := rest % 60 + (if pow10 9 ≤ t.nanos then 1 else 0)
  String.ofList (yearChars y ++ '-' :: padded 2 m ++ '-' :: padded 2 d ++ 'T' :: padded 2 (rest / 3600)
    ++ ':' :: padded 2 (rest / 60 % 60) ++ ':' :: padded 2 sec ++ fraction (t.nanos % pow10 9) ++ ['Z'])

/-- Universal time to the second. -/
def render : Timestamp → String :=
  renderWith fun _ => []

/-- Universal time to the microsecond. -/
def renderMicros : Timestamp → String :=
  renderWith fun nanos => '.' :: padded 6 (nanos / pow10 3)

end Timestamp

end AccessGate.Text
