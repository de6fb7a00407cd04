/-
Text of TOML: between quotes with escapes or between apostrophes without, each on one line or, with
the mark three times, on several. A line end in text reads as one line feed, and the one right after
the opening mark is dropped.
-/
import AccessGate.Text.Digit

namespace AccessGate.Toml

/-- Whether a character may stand in text or in a comment as it is. -/
def isPlain (c : Char) : Bool :=
  c = '\t' || (0x20 ≤ c.toNat && c.toNat ≠ 0x7F)

def isSpace (c : Char) : Bool :=
  c = ' ' || c = '\t'

def skipSpaces (s : List Char) : List Char :=
  s.dropWhile isSpace

/-- The input after a line end. -/
def lineEnd? : List Char → Option (List Char)
  | '\n' :: r => some r
  | '\r' :: '\n' :: r => some r
  | _ => none

/-- The input after spaces and line ends. -/
def skipLines : Nat → List Char → List Char
  | 0, s => s
  | fuel + 1, s =>
    match lineEnd? (skipSpaces s) with
    | some r => skipLines fuel r
    | none => skipSpaces s

/-- A character by so many hexadecimal digits of its code. -/
def coded? (n : Nat) (s : List Char) : Option (Char × List Char) := do
  let ds := s.take n
  if ds.length = n ∧ ds.all (Text.isDigitOf 16) then
    let c ← Text.charOfCode? (Text.naturalOf 16 ds)
    some (c, s.drop n)
  else none

/-- The character of an escape, after its backslash. -/
def escape? : List Char → Option (Char × List Char)
  | 'b' :: r => some ('\x08', r)
  | 't' :: r => some ('\t', r)
  | 'n' :: r => some ('\n', r)
  | 'f' :: r => some ('\x0c', r)
  | 'r' :: r => some ('\r', r)
  | '"' :: r => some ('"', r)
  | '\\' :: r => some ('\\', r)
  | 'u' :: r => coded? 4 r
  | 'U' :: r => coded? 8 r
  | _ => none

/-- Text up to its mark on the same line, characters in reverse. -/
def lineBody (mark : Char) (escapes : Bool) : Nat → List Char → List Char → Option (List Char × List Char)
  | 0, _, _ => none
  | fuel + 1, acc, s =>
    match s with
    | [] => none
    | c :: r =>
      if c = mark then some (acc, r)
      else if escapes && c = '\\' then do
        let (c, r) ← escape? r
        lineBody mark escapes fuel (c :: acc) r
      else if isPlain c then lineBody mark escapes fuel (c :: acc) r
      else none

/-- Text up to three of its mark, characters in reverse. Of a run of marks the last three close the
text; one or two may stand before them, or anywhere in the text. -/
def linesBody (mark : Char) (escapes : Bool) : Nat → List Char → List Char → Option (List Char × List Char)
  | 0, _, _ => none
  | fuel + 1, acc, s =>
    match s with
    | [] => none
    | c :: r =>
      if c = mark then
        let run := (s.takeWhile (· = mark)).length
        if run < 3 then linesBody mark escapes fuel (List.replicate run mark ++ acc) (s.drop run)
        else
          let inside := min (run - 3) 2
          some (List.replicate inside mark ++ acc, s.drop (inside + 3))
      else
        match lineEnd? s with
        | some r => linesBody mark escapes fuel ('\n' :: acc) r
        | none =>
          if escapes && c = '\\' then
            match lineEnd? (skipSpaces r) with
            | some r => linesBody mark escapes fuel acc (skipLines (r.length + 1) r)
            | none => do
              let (c, r) ← escape? r
              linesBody mark escapes fuel (c :: acc) r
          else if isPlain c then linesBody mark escapes fuel (c :: acc) r
          else none

def finishText (r : Option (List Char × List Char)) : Option (String × List Char) :=
  r.map fun r => (String.ofList r.1.reverse, r.2)

/-- Text on one line, if the input starts with a mark of text. -/
def lineText? : List Char → Option (String × List Char)
  | '"' :: r => finishText (lineBody '"' true (r.length + 1) [] r)
  | '\'' :: r => finishText (lineBody '\'' false (r.length + 1) [] r)
  | _ => none

/-- Text, if the input starts with a mark of text. -/
def text? (s : List Char) : Option (String × List Char) :=
  let lines (mark : Char) (escapes : Bool) (r : List Char) : Option (String × List Char) :=
    let r := (lineEnd? r).getD r
    finishText (linesBody mark escapes (r.length + 1) [] r)
  match s with
  | '"' :: '"' :: '"' :: r => lines '"' true r
  | '\'' :: '\'' :: '\'' :: r => lines '\'' false r
  | s => lineText? s

end AccessGate.Toml
