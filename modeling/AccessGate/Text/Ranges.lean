/-
Sets of code points as ascending lists of ranges, searched by halving.
-/
namespace AccessGate.Text

/-- Halves the part of the table from `lo` up to `hi` until the range that could hold n is found. -/
def searchRanges (table : Array (Nat × Nat)) (n : Nat) : Nat → Nat → Nat → Bool
  | 0, _, _ => false
  | fuel + 1, lo, hi =>
    if lo < hi then
      let mid := (lo + hi) / 2
      match table[mid]? with
      | none => false
      | some r =>
        if n < r.1 then searchRanges table n fuel lo mid
        else if r.2 < n then searchRanges table n fuel (mid + 1) hi
        else true
    else false

/-- Whether n lies in one of the ranges. -/
def inRanges (table : Array (Nat × Nat)) (n : Nat) : Bool :=
  searchRanges table n (table.size + 1) 0 table.size

/-- Characters `first`, `first + step`, … up to `last`, each mapped to the one `shift` further on. -/
structure CaseRun where
  first : Nat
  last : Nat
  step : Nat
  shift : Int

/-- The image of a code point under a table of runs. -/
def mapByRuns (table : Array CaseRun) (n : Nat) : Nat :=
  match table.find? fun r => r.first ≤ n && n ≤ r.last && (n - r.first) % r.step == 0 with
  | some r => ((n : Int) + r.shift).toNat
  | none => n

end AccessGate.Text
