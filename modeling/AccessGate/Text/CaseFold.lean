/-
Characters that differ only in case. Two are variants of each other if the lower case of their upper
case is the same; the dotless i is a variant of nothing, and three characters are variants of others
although no mapping of case leads there.
-/
import AccessGate.Text.CaseTable

namespace AccessGate.Text

/-- Characters with variants that no mapping of case leads to. -/
def strayVariants : List (Nat × Nat) :=
  [(0x1FD3, 0x390), (0x1FE3, 0x3B0), (0xFB05, 0xFB06)]

/-- What all variants of a code point have in common. -/
def foldCode (n : Nat) : Nat :=
  if n = 0x131 then n
  else (strayVariants.lookup n).getD (mapByRuns lowerRuns (mapByRuns upperRuns n))

/-- The code points that a table of runs maps to n, and n itself. -/
def sources (table : Array CaseRun) (n : Nat) : List Nat :=
  n :: table.toList.filterMap fun r =>
    let d := (n : Int) - r.shift
    if r.first ≤ d ∧ d ≤ r.last ∧ (d.toNat - r.first) % r.step = 0 then some d.toNat else none

/-- All code points that differ from n at most in case. -/
def variants (n : Nat) : List Nat :=
  let folded := foldCode n
  let stray := (strayVariants.filter fun p => p.2 = folded).map Prod.fst
  (stray ++ (sources lowerRuns folded).flatMap (sources upperRuns)).filter fun d => foldCode d = folded

end AccessGate.Text
