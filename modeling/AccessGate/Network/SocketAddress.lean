/-
Addresses of sockets: an IP address and a port. The octets of a version 4 address are decimal without
leading zeros. A version 6 address stands in brackets: eight groups of hexadecimal digits, of which one
run of zero groups may be left out, the last two may be written as a version 4 address, and a scope may
follow.
-/
import AccessGate.Number.Power
import AccessGate.Text.Digit
import AccessGate.Text.Split

namespace AccessGate.Network

open Text (expect? isDigitOf naturalOf)

/-- An address of either version. -/
inductive IpAddress where
  | v4 (octets : List Nat)
  /-- Eight groups of 16 bits, and a scope, 0 if there is none. -/
  | v6 (groups : List Nat) (scope : Nat)
deriving DecidableEq, Repr

/-- An IP address and a port. -/
structure SocketAddress where
  ip : IpAddress
  port : Nat
deriving DecidableEq, Repr

/-! ## Reading -/

/-- A number of a base, below a limit. -/
def numberBelow? (base limit : Nat) (s : List Char) : Option (Nat × List Char) :=
  let ds := s.takeWhile (isDigitOf base)
  let n := naturalOf base ds
  if ds.isEmpty ∨ limit ≤ n then none else some (n, s.dropWhile (isDigitOf base))

/-- One octet: three digits at most, no leading zeros. -/
def octet? (s : List Char) : Option (Nat × List Char) :=
  let ds := s.takeWhile Char.isDigit
  if 3 < ds.length ∨ (ds.head? = some '0' ∧ 1 < ds.length) then none else numberBelow? 10 256 s

/-- Four octets with points between them. -/
def octets? (s : List Char) : Option (List Nat × List Char) := do
  let (a, s) ← octet? s
  let s ← expect? '.' s
  let (b, s) ← octet? s
  let s ← expect? '.' s
  let (c, s) ← octet? s
  let s ← expect? '.' s
  let (d, s) ← octet? s
  some ([a, b, c, d], s)

/-- One group: four hexadecimal digits at most. -/
def group? (s : List Char) : Option (Nat × List Char) :=
  if 4 < (s.takeWhile (isDigitOf 16)).length then none else numberBelow? 16 65536 s

/-- The two groups of four octets. -/
def groupsOfOctets : List Nat → List Nat
  | a :: b :: rest => (a * 256 + b) :: groupsOfOctets rest
  | _ => []

/-- Groups with colons between them, `limit` at most, as many as can be read; whether they end in four
octets; and the rest. -/
def groups : Nat → Bool → List Char → List Nat × Bool × List Char
  | 0, _, s => ([], false, s)
  | limit + 1, first, s =>
    let start := if first then some s else expect? ':' s
    let octets := if limit = 0 then none else start.bind octets?
    match octets with
    | some (os, r) => (groupsOfOctets os, true, r)
    | none =>
      match start.bind group? with
      | none => ([], false, s)
      | some (g, r) =>
        let (gs, embedded, r) := groups limit false r
        (g :: gs, embedded, r)

/-- The eight groups of a version 6 address. -/
def v6Groups? (s : List Char) : Option (List Nat × List Char) :=
  let (head, embedded, r) := groups 8 true s
  if head.length = 8 then some (head, r)
  else if embedded then none
  else do
    let r ← expect? ':' r
    let r ← expect? ':' r
    let (tail, _, r) := groups (7 - head.length) true r
    some (head ++ List.replicate (8 - head.length - tail.length) 0 ++ tail, r)

def port? (s : List Char) : Option (Nat × List Char) :=
  (expect? ':' s).bind (numberBelow? 10 65536)

/-- The scope of a version 6 address, 0 if there is none. -/
def scopeOf (s : List Char) : Nat × List Char :=
  (((expect? '%' s).bind (numberBelow? 10 (pow2 32))).getD (0, s))

def v4Socket? (s : List Char) : Option (SocketAddress × List Char) := do
  let (os, s) ← octets? s
  let (p, s) ← port? s
  some (⟨.v4 os, p⟩, s)

def v6Socket? (s : List Char) : Option (SocketAddress × List Char) := do
  let s ← expect? '[' s
  let (gs, s) ← v6Groups? s
  let (scope, s) := scopeOf s
  let s ← expect? ']' s
  let (p, s) ← port? s
  some (⟨.v6 gs scope, p⟩, s)

/-- The address that a text stands for. -/
def SocketAddress.parse? (text : String) : Option SocketAddress :=
  match (v4Socket? text.toList).or (v6Socket? text.toList) with
  | some (a, []) => some a
  | _ => none

/-! ## Writing -/

/-- The start and length of the first longest run of zero groups, where `at` is the place of the head. -/
def longestZeros : Nat → List Nat → Nat × Nat
  | _, [] => (0, 0)
  | place, g :: rest =>
    let run := ((g :: rest).takeWhile (· = 0)).length
    let later := longestZeros (place + 1) rest
    if later.2 ≤ run then (place, run) else later

def hexText (n : Nat) : String :=
  String.ofList (Nat.toDigits 16 n)

def joinGroups (gs : List Nat) : String :=
  ":".intercalate (gs.map hexText)

def octetsText (os : List Nat) : String :=
  ".".intercalate (os.map toString)

/-- A version 6 address: the first longest run of at least two zero groups is left out, and an address
that stands for one of version 4 ends in its octets. -/
def groupsText (gs : List Nat) : String :=
  match gs with
  | [0, 0, 0, 0, 0, 0xFFFF, a, b] => "::ffff:" ++ octetsText [a / 256, a % 256, b / 256, b % 256]
  | gs =>
    let (place, run) := longestZeros 0 gs
    if run < 2 then joinGroups gs
    else joinGroups (gs.take place) ++ "::" ++ joinGroups (gs.drop (place + run))

def SocketAddress.text (a : SocketAddress) : String :=
  (match a.ip with
    | .v4 os => octetsText os
    | .v6 gs scope =>
      "[" ++ groupsText gs ++ (if scope = 0 then "" else "%" ++ toString scope) ++ "]")
    ++ ":" ++ toString a.port

/-- Whether the address reaches only the machine itself. -/
def IpAddress.isLoopback : IpAddress → Bool
  | v4 os => os.head? = some 127
  | v6 gs _ => gs = [0, 0, 0, 0, 0, 0, 0, 1]

end AccessGate.Network
