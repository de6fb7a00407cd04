/-
Filter directives: `target[span{field=value}]=level`, each part of which may be left out. A directive
that is only a level is for everything. Blanks around a directive do not count while its marks are
looked for, but its pieces are cut from the text with the blanks, at the same distances from the start.
-/
import AccessGate.Telemetry.Level
import AccessGate.Text.Alphanumeric
import AccessGate.Text.Pattern.Machine
import AccessGate.Text.Pattern.Reader
import AccessGate.Text.Split

namespace AccessGate.Telemetry

/-- Why directives cannot be read. -/
inductive DirectiveError where
  | malformed
  | level
  | field (e : Text.PatternError)
deriving DecidableEq, Repr

def DirectiveError.message : DirectiveError → String
  | malformed => "invalid filter directive"
  | level =>
    "error parsing level filter: expected one of \"off\", \"error\", \"warn\", \"info\", \"debug\", \"trace\", or a number 0-5"
  | field e => "invalid field filter: " ++ e.message

/-- What a field is compared with. -/
inductive FieldValue where
  /-- A truth value or a number, which no text equals. -/
  | scalar
  /-- A pattern, and the text that it was read from. -/
  | pattern (text : String) (p : Text.Pattern)
deriving DecidableEq, Repr

/-- Whether a text is such a value. -/
def FieldValue.fits : FieldValue → String → Bool
  | scalar, _ => false
  | pattern _ p, s => p.fits s

/-- A field that a span has to have, and its value if that matters. -/
structure FieldMatch where
  name : String
  value : Option FieldValue
deriving DecidableEq, Repr

structure Directive where
  target : Option String := none
  span : Option String := none
  fields : List FieldMatch := []
  level : Threshold := .upTo .trace
deriving DecidableEq, Repr

/-! ## Values of fields -/

/-- Whether a text is an integer, perhaps with a sign. -/
def isInteger (s : List Char) : Bool :=
  let ds := match s with
    | '+' :: r | '-' :: r => r
    | r => r
  !ds.isEmpty && ds.all Char.isDigit

/-- Whether a text is a decimal number with a point, an exponent or both, or names no number. -/
def isFloat (s : List Char) : Bool :=
  let s := match s with
    | '+' :: r | '-' :: r => r
    | r => r
  if ["inf", "infinity", "nan"].contains (Text.toAsciiLower (String.ofList s)) then true
  else
    let whole := s.takeWhile Char.isDigit
    let (fraction, r) := match s.dropWhile Char.isDigit with
      | '.' :: r => (r.takeWhile Char.isDigit, r.dropWhile Char.isDigit)
      | r => ([], r)
    !(whole ++ fraction).isEmpty && (match r with
      | [] => true
      | 'e' :: r | 'E' :: r => isInteger r
      | _ => false)

def FieldValue.ofText (s : List Char) : Except DirectiveError FieldValue :=
  if s = "true".toList ∨ s = "false".toList ∨ isInteger s ∨ isFloat s then .ok .scalar
  else
    match Text.Pattern.ofText s with
    | .ok p => .ok (.pattern (String.ofList s) p)
    | .error e => .error (.field e)

/-- A field, up to a second equals sign. -/
def FieldMatch.ofText (s : List Char) : Except DirectiveError FieldMatch :=
  match Text.splitOnce? ['='] s with
  | none => .ok ⟨String.ofList s, none⟩
  | some (name, rest) =>
    (FieldValue.ofText (rest.takeWhile (· ≠ '='))).map fun v => ⟨String.ofList name, some v⟩

/-! ## Directives -/

/-- The length in bytes of characters. -/
def byteLength (cs : List Char) : Nat :=
  cs.foldl (fun n c => n + c.utf8Size) 0

/-- The characters that start in a range of bytes. -/
def cut (lo hi : Nat) : Nat → List Char → List Char
  | _, [] => []
  | i, c :: r => if lo ≤ i ∧ i < hi then c :: cut lo hi (i + c.utf8Size) r else cut lo hi (i + c.utf8Size) r

/-- A directive while it is read: all of its text, and how many bytes of it were read. -/
structure Cursor where
  whole : List Char
  read : Nat

namespace Cursor

/-- The text up to a place so many bytes further. -/
def upTo (c : Cursor) (n : Nat) : List Char :=
  cut c.read (c.read + n) 0 c.whole

/-- The text that is left. -/
def rest (c : Cursor) : List Char :=
  cut c.read (byteLength c.whole) 0 c.whole

/-- The cursor after so many bytes more. -/
def after (c : Cursor) (n : Nat) : Cursor :=
  { c with read := c.read + n }

end Cursor

/-- The characters before the first of some marks, the mark, and the characters after it. -/
def splitAtMark (marks : List Char) (s : List Char) : Option (List Char × Char × List Char) :=
  match s.dropWhile (!marks.contains ·) with
  | [] => none
  | c :: r => some (s.takeWhile (!marks.contains ·), c, r)

/-- The level that ends a directive; without a text it is the lowest. -/
def levelOf (s : List Char) : Except DirectiveError Threshold :=
  if s.isEmpty then .ok (.upTo .trace)
  else
    match Threshold.ofText? (String.ofList s) with
    | some t => .ok t
    | none => .error .level

namespace Directive

/-- What follows the closing bracket of a span: nothing, or a level. -/
def afterSpan (d : Directive) (here : Cursor) (s : List Char) : Except DirectiveError Directive :=
  match s with
  | [] => .ok d
  | '=' :: _ => (levelOf (here.after 1).rest).map fun l => { d with level := l }
  | _ => .error .malformed

/-- The field of a span after its opening brace. -/
def field (d : Directive) (here : Cursor) (s : List Char) : Except DirectiveError Directive :=
  match splitAtMark ['\x7d'] s with
  | none => .error .malformed
  | some (before, _, r) =>
    let n := byteLength before
    let text := here.upTo n
    if text.isEmpty then .error .malformed
    else
      match FieldMatch.ofText text with
      | .error e => .error e
      | .ok f =>
        match r with
        | ']' :: r => afterSpan { d with fields := [f] } (here.after (n + 2)) r
        | _ => .error .malformed

/-- A span after its opening bracket. -/
def spanPart (d : Directive) (here : Cursor) (s : List Char) : Except DirectiveError Directive :=
  match splitAtMark [']', '\x7b'] s with
  | none => .error .malformed
  | some (before, mark, r) =>
    let n := byteLength before
    let name := String.ofList (here.upTo n)
    if mark = ']' then afterSpan { d with span := some name } (here.after (n + 1)) r
    else field { d with span := if name = "" then none else some name } (here.after (n + 1)) r

/-- Whether a directive may start with a character. -/
def mayStart (c : Char) : Bool :=
  c = '-' || c = ':' || c = '_' || Text.isAlphanumeric c

/-- A directive. -/
def ofText (text : List Char) : Except DirectiveError Directive :=
  let here : Cursor := ⟨text, 0⟩
  match Text.trimChars text with
  | [] => .error .malformed
  | '[' :: r => spanPart {} (here.after 1) r
  | c :: r =>
    if !mayStart c then .error .malformed
    else
      match splitAtMark ['=', '['] (c :: r) with
      | none =>
        match Threshold.ofText? (String.ofList text) with
        | some t => .ok { level := t }
        | none => .ok { target := some (String.ofList text) }
      | some (before, mark, r) =>
        let n := byteLength before
        let d : Directive := { target := some (String.ofList (here.upTo n)) }
        if mark = '=' then (levelOf (here.after (n + 1)).rest).map fun l => { d with level := l }
        else spanPart d (here.after (n + 1)) r

/-- The directives of a text, parted by commas; the first that cannot be read is the error. -/
def all (text : String) : Except DirectiveError (List Directive) :=
  ((Text.splitChars ',' text.toList).filter (!·.isEmpty)).mapM ofText

end Directive

end AccessGate.Telemetry
