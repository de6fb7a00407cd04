/-
Lower and upper case of text in all scripts. Lower case keeps the number of characters but for the
capital I with a dot, which becomes two; a capital sigma at the end of a word takes its final form.
Upper case writes ligatures and the sharp s as several letters.
-/
import AccessGate.Text.CaseTable

namespace AccessGate.Text

/-- Whether, past characters that only accompany others, a character with case comes first. -/
def casedFirst (cs : List Char) : Bool :=
  match cs.dropWhile fun c => inRanges caseIgnorableRanges c.toNat with
  | [] => false
  | c :: _ => inRanges casedRanges c.toNat

/-- The lower case of a character that is no capital sigma. -/
def lowerChar (c : Char) : List Char :=
  if c.toNat < 128 then [c.toLower]
  else if c.toNat = 0x130 then ['i', Char.ofNat 0x307]
  else [Char.ofNat (mapByRuns lowerRuns c.toNat)]

/-- Lower case of the input, `before` being what precedes it, in reverse. -/
def lowerChars (before : List Char) : List Char → List Char
  | [] => []
  | c :: rest =>
    let image :=
      if c.toNat = 0x3A3 then
        if casedFirst before && !casedFirst rest then [Char.ofNat 0x3C2] else [Char.ofNat 0x3C3]
      else lowerChar c
    image ++ lowerChars (c :: before) rest

/-- The text in lower case. -/
def toLower (s : String) : String :=
  String.ofList (lowerChars [] s.toList)

/-- The upper case of a character. -/
def upperChar (c : Char) : List Char :=
  if c.toNat < 128 then [c.toUpper]
  else
    match upperExpansions.find? fun e => e.1 == c.toNat with
    | some e => e.2.map Char.ofNat
    | none => [Char.ofNat (mapByRuns upperRuns c.toNat)]

/-- The text in upper case. -/
def toUpper (s : String) : String :=
  String.ofList (s.toList.flatMap upperChar)

/-- The text with the letters A to Z in lower case. -/
def toAsciiLower (s : String) : String :=
  String.ofList (s.toList.map Char.toLower)

end AccessGate.Text
