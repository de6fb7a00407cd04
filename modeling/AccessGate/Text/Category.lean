/-
Categories of characters. Every character is of exactly one, and one that no table holds is of the
category of controls and unassigned code points.
-/
import AccessGate.Text.CategoryTable

namespace AccessGate.Text

/-- What a character is. -/
inductive Category where
  | letter
  | mark
  | numeral
  | punctuation
  | symbol
  | separator
  | other
deriving DecidableEq, Repr, Inhabited

namespace Category

/-- The category of a character. -/
def of (c : Char) : Category :=
  let n := c.toNat
  if inRanges letterRanges n then letter
  else if inRanges markRanges n then mark
  else if inRanges numeralRanges n then numeral
  else if inRanges punctuationRanges n then punctuation
  else if inRanges symbolRanges n then symbol
  else if inRanges separatorRanges n then separator
  else other

/-- The category that a letter names. -/
def named? (c : Char) : Option Category :=
  match c.toLower with
  | 'l' => some letter
  | 'm' => some mark
  | 'n' => some numeral
  | 'p' => some punctuation
  | 's' => some symbol
  | 'z' => some separator
  | 'c' => some other
  | _ => none

end Category

end AccessGate.Text
