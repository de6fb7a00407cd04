/-
Documents as they stand in a text, before it is known what they are for. Whoever reads a draft asks for
something of its parts: for a value, for members by name, or for nothing. What nothing is asked of only
has to be written like a document, so a number beyond the range, half of a surrogate pair or a key given
twice may stand there. A text that goes wrong is a draft up to that place, and who reads it finds out on
getting there. Blanks between tokens are space, tab, line feed and carriage return.
-/
import AccessGate.Json.Numeral

namespace AccessGate.Json

/-- The input from the first character that is no blank. -/
def skipBlanks : List Char → List Char
  | c :: rest => if c = ' ' ∨ c = '\n' ∨ c = '\t' ∨ c = '\r' then skipBlanks rest else c :: rest
  | [] => []

/-- A document in a text; each part says whether it can be passed over. -/
inductive Draft where
  | scalar (value : Except Fault Json) (passed : Except Fault Unit)
  | list (items : List Draft) (passed : Except Fault Unit)
  | object (members : List (Draft × Draft)) (passed : Except Fault Unit)
deriving Inhabited

namespace Draft

/-- Where a text goes wrong. -/
def broken (f : Fault) : Draft :=
  scalar (.error f) (.error f)

/-- What comes of passing over a draft. -/
def passed : Draft → Except Fault Unit
  | scalar _ p | list _ p | object _ p => p

/-- The text that a draft is, as keys have to be. -/
def text : Draft → Except Fault String
  | scalar (.ok (.str s)) _ => .ok s
  | scalar (.error f) _ => .error f
  | _ => .error .unfit

mutual

/-- The value of a draft whose lists and objects may nest so deep; the last of equal keys counts. -/
def value : Nat → Draft → Except Fault Json
  | _, scalar v _ => v
  | 0, _ => .error .unfit
  | depth + 1, list items _ => (items.mapM (value depth)).map .arr
  | depth + 1, object members _ => (members.mapM (memberValue depth)).map Json.object

def memberValue (depth : Nat) (m : Draft × Draft) : Except Fault (String × Json) := do
  let k ← m.1.text
  let v ← m.2.value depth
  .ok (k, v)

end

end Draft

/-! ## Strings -/

/-- Four hexadecimal digits. -/
def unit16 (s : List Char) : Except Fault (Nat × List Char) :=
  match s with
  | a :: b :: c :: d :: rest =>
    match Text.hexValue? a, Text.hexValue? b, Text.hexValue? c, Text.hexValue? d with
    | some a, some b, some c, some d => .ok (((a * 16 + b) * 16 + c) * 16 + d, rest)
    | _, _, _, _ => .error .unfit
  | _ => .error (if s.foldl (fun n c => n + c.utf8Size) 0 < 4 then .cutOff else .unfit)

/-- The low half of a surrogate pair after its high half. -/
def lowSurrogate : List Char → Except Fault (Nat × List Char)
  | [] | ['\\'] => .error .cutOff
  | '\\' :: 'u' :: rest => do
    let (v, rest) ← unit16 rest
    if 0xDC00 ≤ v ∧ v < 0xE000 then .ok (v, rest) else .error .unfit
  | _ => .error .unfit

/-- The character of a `\u` escape: one unit, or two that form a surrogate pair. -/
def escapedUnits (s : List Char) : Except Fault (Char × List Char) := do
  let (u, rest) ← unit16 s
  if 0xDC00 ≤ u ∧ u < 0xE000 then .error .unfit
  else if 0xD800 ≤ u ∧ u < 0xDC00 then do
    let (v, rest) ← lowSurrogate rest
    .ok (Char.ofNat (0x10000 + (u - 0xD800) * 0x400 + (v - 0xDC00)), rest)
  else .ok (Char.ofNat u, rest)

/-- The character of a one-letter escape. -/
def simpleEscape? (c : Char) : Option Char :=
  match c with
  | '"' => some '"'
  | '\\' => some '\\'
  | '/' => some '/'
  | 'b' => some '\x08'
  | 'f' => some '\x0c'
  | 'n' => some '\n'
  | 'r' => some '\r'
  | 't' => some '\t'
  | _ => none

/-- The characters of a string up to its closing quote, in reverse. -/
def stringBody : Nat → List Char → List Char → Except Fault (List Char)
  | 0, _, _ => .error .cutOff
  | fuel + 1, acc, s =>
    match s with
    | [] | ['\\'] => .error .cutOff
    | '"' :: _ => .ok acc
    | '\\' :: 'u' :: rest => do
      let (c, rest) ← escapedUnits rest
      stringBody fuel (c :: acc) rest
    | '\\' :: e :: rest =>
      match simpleEscape? e with
      | some c => stringBody fuel (c :: acc) rest
      | none => .error .unfit
    | c :: rest => if c.toNat < 32 then .error .unfit else stringBody fuel (c :: acc) rest

/-- What follows the closing quote of a string; half of a surrogate pair is passed over. -/
def afterString : Nat → List Char → Except Fault (List Char)
  | 0, _ => .error .cutOff
  | fuel + 1, s =>
    match s with
    | [] | ['\\'] => .error .cutOff
    | '"' :: rest => .ok rest
    | '\\' :: 'u' :: rest => do
      let (_, rest) ← unit16 rest
      afterString fuel rest
    | '\\' :: e :: rest => if (simpleEscape? e).isSome then afterString fuel rest else .error .unfit
    | c :: rest => if c.toNat < 32 then .error .unfit else afterString fuel rest

/-- A string whose opening quote has been read. -/
def stringPiece (s : List Char) : Piece Json :=
  ⟨(stringBody (s.length + 1) [] s).map fun cs => .str (String.ofList cs.reverse), afterString (s.length + 1) s⟩

/-! ## Drafts -/

/-- A word whose first letter has been read. -/
def wordPiece (j : Json) : List Char → List Char → Piece Json
  | [], s => ⟨.ok j, .ok s⟩
  | _ :: _, [] => .fault .cutOff
  | w :: word, c :: s => if w = c then wordPiece j word s else .fault .unfit

/-- A draft and what follows it. -/
abbrev Drafted (α : Type) := α × Except Fault (List Char)

def ofPiece (p : Piece Json) : Drafted Draft :=
  (.scalar p.value (p.rest.map fun _ => ()), p.rest)

def brokenAt (f : Fault) : Drafted Draft :=
  (.broken f, .error f)

mutual

/-- The draft at the head of the input, blanks before it skipped. -/
def draft : Nat → List Char → Drafted Draft
  | 0, _ => brokenAt .unfit
  | fuel + 1, s =>
    match skipBlanks s with
    | [] => brokenAt .cutOff
    | 'n' :: rest => ofPiece (wordPiece .null ['u', 'l', 'l'] rest)
    | 't' :: rest => ofPiece (wordPiece (.bool true) ['r', 'u', 'e'] rest)
    | 'f' :: rest => ofPiece (wordPiece (.bool false) ['a', 'l', 's', 'e'] rest)
    | '"' :: rest => ofPiece (stringPiece rest)
    | '-' :: rest => ofPiece (number true rest)
    | '[' :: rest =>
      let (ds, rest) := items fuel true rest
      (.list ds (rest.map fun _ => ()), rest)
    | '\x7b' :: rest =>
      let (ms, rest) := members fuel true rest
      (.object ms (rest.map fun _ => ()), rest)
    | c :: rest => if c.isDigit then ofPiece (number false (c :: rest)) else brokenAt .unfit

/-- The items of a list up to its closing bracket; all but the first follow a comma. -/
def items : Nat → Bool → List Char → Drafted (List Draft)
  | 0, _, _ => ([.broken .unfit], .error .unfit)
  | fuel + 1, first, s =>
    let item (s : List Char) : Drafted (List Draft) :=
      match draft fuel s with
      | (d, .error f) => ([d], .error f)
      | (d, .ok rest) =>
        let (ds, rest) := items fuel false rest
        (d :: ds, rest)
    match skipBlanks s with
    | [] => ([.broken .cutOff], .error .cutOff)
    | ']' :: rest => ([], .ok rest)
    | ',' :: rest => if first then ([.broken .unfit], .error .unfit) else item rest
    | c :: rest => if first then item (c :: rest) else ([.broken .unfit], .error .unfit)

/-- The members of an object up to its closing brace; all but the first follow a comma. -/
def members : Nat → Bool → List Char → Drafted (List (Draft × Draft))
  | 0, _, _ => ([(.broken .unfit, .broken .unfit)], .error .unfit)
  | fuel + 1, first, s =>
    let wrong (f : Fault) : Drafted (List (Draft × Draft)) := ([(.broken f, .broken f)], .error f)
    let member (s : List Char) : Drafted (List (Draft × Draft)) :=
      match skipBlanks s with
      | [] => wrong .cutOff
      | '"' :: rest =>
        match ofPiece (stringPiece rest) with
        | (k, .error f) => ([(k, .broken f)], .error f)
        | (k, .ok rest) =>
          match skipBlanks rest with
          | [] => ([(k, .broken .cutOff)], .error .cutOff)
          | ':' :: rest =>
            match draft fuel rest with
            | (d, .error f) => ([(k, d)], .error f)
            | (d, .ok rest) =>
              let (ms, rest) := members fuel false rest
              ((k, d) :: ms, rest)
          | _ => ([(k, .broken .unfit)], .error .unfit)
      | _ => wrong .unfit
    match skipBlanks s with
    | [] => wrong .cutOff
    | '\x7d' :: rest => ([], .ok rest)
    | ',' :: rest => if first then wrong .unfit else member rest
    | c :: rest => if first then member (c :: rest) else wrong .unfit

end

/-- What is read from the draft that a text is, blanks around it aside. -/
def readText {α : Type} (read : Draft → Except Fault α) (s : String) : Except Fault α := do
  let cs := s.toList
  let (d, rest) := draft (2 * cs.length + 2) cs
  let a ← read d
  let rest ← rest
  if (skipBlanks rest).isEmpty then .ok a else .error .unfit

end AccessGate.Json
