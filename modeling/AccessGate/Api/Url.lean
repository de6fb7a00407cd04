/-
Targets of requests: paths, which are sent as they are and have to be valid, and queries, whose parts
are encoded.
-/
import AccessGate.Text.Digit

namespace AccessGate.Api

/-- Whether a character may stand in a path. -/
def mayStandInPath (c : Char) : Bool :=
  let n := c.toNat
  n = 0x21 || n = 0x22 || (0x24 ≤ n && n ≤ 0x3B) || n = 0x3D || (0x40 ≤ n && n ≤ 0x5F)
    || 0x61 ≤ n

/-- Whether a character may stand in a query. -/
def mayStandInQuery (c : Char) : Bool :=
  let n := c.toNat
  n = 0x21 || (0x24 ≤ n && n ≤ 0x3B) || n = 0x3D || 0x3F ≤ n

/-- Why a target cannot be sent. -/
inductive TargetError where
  | tooLong
  | badCharacter
deriving DecidableEq, Repr

def TargetError.message : TargetError → String
  | tooLong => "uri too long"
  | badCharacter => "invalid uri character"

/-- How many bytes a target may have. -/
def maxTargetBytes : Nat := 65534

/-- The target as it is sent, if it is valid. A number sign ends it. -/
def checkTarget (s : String) : Except TargetError String :=
  let cs := s.toList.takeWhile (· ≠ '#')
  let path := cs.takeWhile (· ≠ '?')
  let query := (cs.dropWhile (· ≠ '?')).drop 1
  if maxTargetBytes < s.utf8ByteSize then .error .tooLong
  else if path.all mayStandInPath && query.all mayStandInQuery then .ok (String.ofList cs)
  else .error .badCharacter

def hexByte (b : UInt8) : List Char :=
  let digit (n : Nat) : Char := (Nat.digitChar n).toUpper
  ['%', digit (b.toNat / 16), digit (b.toNat % 16)]

/-- A part of a query: letters, digits and a few marks stay, a blank becomes a plus, and every other
byte is written by its number. -/
def encodePart (s : String) : String :=
  String.ofList (s.toUTF8.toList.flatMap fun b =>
    let c := Char.ofNat b.toNat
    if c.isAlphanum || c = '*' || c = '-' || c = '.' || c = '_' then [c]
    else if c = ' ' then ['+']
    else hexByte b)

/-- A path with a query of these parts, each after an ampersand. -/
def withQuery (path : String) (parts : List (String × String)) : String :=
  path ++ "?" ++ String.join (parts.map fun p => "&" ++ encodePart p.1 ++ "=" ++ encodePart p.2)

end AccessGate.Api
