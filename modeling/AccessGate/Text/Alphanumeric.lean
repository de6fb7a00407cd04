/-
Letters and numerals of all scripts.
-/
import AccessGate.Text.CategoryTable

namespace AccessGate.Text

/-- Whether the character counts as a letter. -/
def isAlphabetic (c : Char) : Bool :=
  if c.toNat < 128 then c.isAlpha else inRanges letterRanges c.toNat || inRanges alphabeticRanges c.toNat

/-- Whether the character counts as a letter or is a numeral. -/
def isAlphanumeric (c : Char) : Bool :=
  if c.toNat < 128 then c.isAlphanum else isAlphabetic c || inRanges numeralRanges c.toNat

end AccessGate.Text
