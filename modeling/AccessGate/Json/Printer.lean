/-
The compact text of a document: no blanks, members in key order, and in a string only the quote,
the backslash and control characters are escaped.
-/
import AccessGate.Json.Basic
import AccessGate.Number.Shortest

namespace AccessGate.Json

def hexDigit (n : Nat) : Char :=
  Nat.digitChar (n % 16)

/-- One character of a string as written. -/
def escapeChar (c : Char) : List Char :=
  if c = '"' then ['\\', '"']
  else if c = '\\' then ['\\', '\\']
  else if c = '\n' then ['\\', 'n']
  else if c = '\r' then ['\\', 'r']
  else if c = '\t' then ['\\', 't']
  else if c.toNat = 8 then ['\\', 'b']
  else if c.toNat = 12 then ['\\', 'f']
  else if c.toNat < 32 then ['\\', 'u', '0', '0', hexDigit (c.toNat / 16), hexDigit c.toNat]
  else [c]

def stringChars (s : String) : List Char :=
  '"' :: (s.toList.flatMap escapeChar ++ ['"'])

def intChars (i : Int) : List Char :=
  if i < 0 then '-' :: Nat.toDigits 10 i.natAbs else Nat.toDigits 10 i.natAbs

mutual

/-- The characters of a document, followed by `rest`. A number that is not finite has no form and
stands as null. -/
def chars : Json → List Char → List Char
  | .null, rest => 'n' :: 'u' :: 'l' :: 'l' :: rest
  | .bool true, rest => 't' :: 'r' :: 'u' :: 'e' :: rest
  | .bool false, rest => 'f' :: 'a' :: 'l' :: 's' :: 'e' :: rest
  | .int i, rest => intChars i ++ rest
  | .float x, rest =>
    if x.isFinite then x.documentText.toList ++ rest else 'n' :: 'u' :: 'l' :: 'l' :: rest
  | .str s, rest => stringChars s ++ rest
  | .arr [], rest => '[' :: ']' :: rest
  | .arr (x :: xs), rest => '[' :: chars x (itemChars xs (']' :: rest))
  | .obj [], rest => '\x7b' :: '\x7d' :: rest
  | .obj ((k, v) :: fields), rest =>
    '\x7b' :: (stringChars k ++ ':' :: chars v (memberChars fields ('\x7d' :: rest)))

/-- The items after the first, each led by its comma. -/
def itemChars : List Json → List Char → List Char
  | [], rest => rest
  | x :: xs, rest => ',' :: chars x (itemChars xs rest)

/-- The members after the first, each led by its comma. -/
def memberChars : List (String × Json) → List Char → List Char
  | [], rest => rest
  | (k, v) :: fields, rest => ',' :: (stringChars k ++ ':' :: chars v (memberChars fields rest))

end

/-- The compact text of a document. -/
def render (j : Json) : String :=
  String.ofList (j.chars [])

end AccessGate.Json
