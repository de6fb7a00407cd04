/-
Identifiers of requests: 128 bits, written as 32 hexadecimal digits in groups of 8, 4, 4, 4 and 12 with
dashes between them. The digits may also be read without dashes, and the groups within braces or after
`urn:uuid:`.
-/
import AccessGate.Json.Basic
import AccessGate.Text.Digit
import AccessGate.Text.Split

namespace AccessGate

/-- The identifier of a request. -/
structure RequestId where
  value : Nat
  value_lt : value < pow2 128
deriving DecidableEq, Repr

namespace RequestId

/-- The lengths of the groups of digits. -/
def groupLengths : List Nat := [8, 4, 4, 4, 12]

/-- The digits of groups with dashes between them. -/
def groupDigits? (s : List Char) : Option (List Char) :=
  let groups := Text.splitChars '-' s
  if groups.map List.length = groupLengths then some groups.flatten else none

/-- The digits that a text gives. -/
def digits? (s : List Char) : Option (List Char) :=
  match s, Text.dropStart? "urn:uuid:".toList s with
  | _, some r => groupDigits? r
  | '\x7b' :: r, none => if r.getLast? = some '\x7d' then groupDigits? r.dropLast else none
  | s, none => if s.length = 32 then some s else groupDigits? s

def parse? (text : String) : Option RequestId := do
  let ds ← digits? text.toList
  if ds.all (Text.isDigitOf 16) then
    let n := Text.naturalOf 16 ds
    if h : n < pow2 128 then some ⟨n, h⟩ else none
  else none

def ofJson? (j : Json) : Option RequestId :=
  j.asString?.bind parse?

/-- Pieces of the given lengths. -/
def pieces : List Nat → List Char → List (List Char)
  | [], _ => []
  | n :: ns, s => s.take n :: pieces ns (s.drop n)

def text (i : RequestId) : String :=
  let ds := Nat.toDigits 16 i.value
  let ds := List.replicate (32 - ds.length) '0' ++ ds
  "-".intercalate ((pieces groupLengths ds).map String.ofList)

end RequestId

end AccessGate
