/-
Dates and times of TOML: a date, a time, both, and both with an offset from universal time. A document
has no value for them, so one is held as an object with a single member, its text.
-/
import AccessGate.Json.Basic
import AccessGate.Text.Split
import AccessGate.Text.Timestamp

namespace AccessGate.Toml

open Text (expect? naturalOf)

/-- A number of exactly so many digits. -/
def fixedDigits? (n : Nat) (s : List Char) : Option (Nat × List Char) :=
  let ds := s.take n
  if ds.length = n ∧ ds.all Char.isDigit then some (naturalOf 10 ds, s.drop n) else none

/-- A day that the calendar has. -/
def date? (s : List Char) : Option (List Char) := do
  let (y, s) ← fixedDigits? 4 s
  let s ← expect? '-' s
  let (m, s) ← fixedDigits? 2 s
  let s ← expect? '-' s
  let (d, s) ← fixedDigits? 2 s
  if 1 ≤ m ∧ m ≤ 12 ∧ 1 ≤ d ∧ d ≤ Text.Timestamp.daysInMonth y m then some s else none

/-- A time of day, to the second or finer. -/
def time? (s : List Char) : Option (List Char) := do
  let (h, s) ← fixedDigits? 2 s
  let s ← expect? ':' s
  let (m, s) ← fixedDigits? 2 s
  let s ← expect? ':' s
  let (sec, s) ← fixedDigits? 2 s
  if h < 24 ∧ m < 60 ∧ sec ≤ 60 then
    match s with
    | '.' :: r => if r.head?.any Char.isDigit then some (r.dropWhile Char.isDigit) else none
    | s => some s
  else none

def offset? (s : List Char) : Option (List Char) :=
  match s with
  | 'Z' :: r | 'z' :: r => some r
  | '+' :: r | '-' :: r => do
    let (h, r) ← fixedDigits? 2 r
    let r ← expect? ':' r
    let (m, r) ← fixedDigits? 2 r
    if h < 24 ∧ m < 60 then some r else none
  | _ => none

/-- The input after a date, a time or both. -/
def dateTimeEnd? (s : List Char) : Option (List Char) :=
  match date? s with
  | none => time? s
  | some r =>
    match r with
    | 'T' :: t | 't' :: t | ' ' :: t =>
      match time? t with
      | none => some r
      | some e => some ((offset? e).getD e)
    | r => some r

/-- A date, a time or both. -/
def dateTime? (s : List Char) : Option (Json × List Char) :=
  (dateTimeEnd? s).map fun r =>
    (.obj [("$datetime", .str (String.ofList (s.take (s.length - r.length))))], r)

end AccessGate.Toml
