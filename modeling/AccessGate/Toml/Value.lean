/-
Keys and values of TOML. Lists and inline tables nest at most 79 deep, and a dotted key has at most 79
parts. A list may run over lines and hold comments; an inline table stands on one line.
-/
import AccessGate.Toml.DateTime
import AccessGate.Toml.Number
import AccessGate.Toml.Text
import AccessGate.Toml.Tree

namespace AccessGate.Toml

/-- The limit of nesting, and of the parts of a key. -/
def maxDepth : Nat := 79

/-! ## Keys -/

def isBareKeyChar (c : Char) : Bool :=
  c.isAlphanum || c = '-' || c = '_'

/-- One part of a key: bare, or text on one line. -/
def keyPart? (s : List Char) : Option (String × List Char) :=
  match lineText? s with
  | some r => some r
  | none =>
    let part := s.takeWhile isBareKeyChar
    if part.isEmpty then none else some (String.ofList part, s.dropWhile isBareKeyChar)

/-- The parts of a key, spaces around them skipped. -/
def keyParts : Nat → List Char → Option (List String × List Char)
  | 0, _ => none
  | fuel + 1, s => do
    let (k, r) ← keyPart? (skipSpaces s)
    match skipSpaces r with
    | '.' :: r => do
      let (ks, r) ← keyParts fuel r
      some (k :: ks, r)
    | r => some ([k], r)

/-- A key: the path to its table, and its last part. -/
structure Key where
  path : List String
  last : String
deriving DecidableEq, Repr

/-- A key, which may be dotted. -/
def key? (s : List Char) : Option (Key × List Char) := do
  let (ks, r) ← keyParts (s.length + 1) s
  let last ← ks.getLast?
  if ks.length ≤ maxDepth then some (⟨ks.dropLast, last⟩, r) else none

/-! ## Between values -/

/-- The input after a comment, if one starts here. -/
def skipComment (s : List Char) : List Char :=
  match s with
  | '#' :: r => r.dropWhile isPlain
  | s => s

/-- The input after spaces, line ends and comments. -/
def skipFiller : Nat → List Char → List Char
  | 0, s => s
  | fuel + 1, s =>
    let s := skipSpaces s
    match lineEnd? (skipComment s) with
    | some r => skipFiller fuel r
    | none => s

/-! ## Values -/

mutual

/-- A value at the head of the input. -/
def value : Nat → Nat → List Char → Option (Json × List Char)
  | 0, _, _ => none
  | fuel + 1, depth, s =>
    match s with
    | '"' :: _ | '\'' :: _ => (text? s).map fun r => (.str r.1, r.2)
    | 't' :: 'r' :: 'u' :: 'e' :: r => some (.bool true, r)
    | 'f' :: 'a' :: 'l' :: 's' :: 'e' :: r => some (.bool false, r)
    | '[' :: r =>
      match depth with
      | 0 => none
      | depth + 1 => (items fuel depth r).map fun x => (.arr x.1, x.2)
    | '\x7b' :: r =>
      match depth with
      | 0 => none
      | depth + 1 =>
        match skipSpaces r with
        | '\x7d' :: r => some (.obj [], r)
        | r => (members fuel depth [] r).map fun x => ((Node.table .header x.1).toJson, x.2)
    | s => (dateTime? s).or (number? s)

/-- The items of a list up to its closing bracket. -/
def items : Nat → Nat → List Char → Option (List Json × List Char)
  | 0, _, _ => none
  | fuel + 1, depth, s =>
    match skipFiller (s.length + 1) s with
    | ']' :: r => some ([], r)
    | s => do
      let (x, r) ← value fuel depth s
      match skipFiller (r.length + 1) r with
      | ']' :: r => some ([x], r)
      | ',' :: r => do
        let (xs, r) ← items fuel depth r
        some (x :: xs, r)
      | _ => none

/-- The members of an inline table up to its closing brace; at least one. -/
def members : Nat → Nat → Members → List Char → Option (Members × List Char)
  | 0, _, _, _ => none
  | fuel + 1, depth, ms, s => do
    let (k, r) ← key? s
    let r ← Text.expect? '=' r
    let (v, r) ← value fuel depth (skipSpaces r)
    let ms ← ms.add .header k.path k.last v
    match skipSpaces r with
    | '\x7d' :: r => some (ms, r)
    | ',' :: r => members fuel depth ms r
    | _ => none

end

/-- A value at the head of the input. -/
def value? (s : List Char) : Option (Json × List Char) :=
  value (2 * s.length + 2) maxDepth s

end AccessGate.Toml
