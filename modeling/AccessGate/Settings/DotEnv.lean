/-
Variables from a `.env` file. Each line gives one variable; a line that breaks off within quotes, after
a backslash or after blanks goes on with the next. Values may hold quotes, escapes and `$NAME`, which
stands for a variable of the process or else one of an earlier line. The first line that cannot be read
ends the reading. A variable of the process that is text stays as it is; a value that the system does not
take for one that is set ends the program.
-/
import AccessGate.Settings.Environment
import AccessGate.Text.Alphanumeric

namespace AccessGate.Settings.DotEnv

/-! ## Lines -/

/-- Where in a line its end may come. -/
inductive LineState where
  | complete
  | escape
  | strong
  | strongEscape
  | weak
  | weakEscape
  | blank
  | comment
deriving DecidableEq, Repr

namespace LineState

/-- The state after a character that is not in quotes or escaped. -/
def ofPlain (c : Char) : LineState :=
  match c with
  | '\\' => escape
  | '"' => weak
  | '\'' => strong
  | _ => complete

def next (st : LineState) (c : Char) : LineState :=
  match st with
  | blank => if c = '#' then comment else ofPlain c
  | escape => complete
  | complete => if Text.isBlank c && c ≠ '\n' && c ≠ '\r' then blank else ofPlain c
  | weak => if c = '\\' then weakEscape else if c = '"' then complete else weak
  | weakEscape => weak
  | strong => if c = '\\' then strongEscape else if c = '\'' then complete else strong
  | strongEscape => strong
  | comment => comment

/-- The state after characters, and those before a comment. -/
def scan (st : LineState) : List Char → LineState × List Char
  | [] => (st, [])
  | c :: rest =>
    let next := st.next c
    if next = comment then (comment, [])
    else
      let r := scan next rest
      (r.1, c :: r.2)

end LineState

/-- The lines of a text, each with its line feed. -/
def physicalLines : List Char → List (List Char)
  | [] => []
  | c :: rest =>
    if c = '\n' then [c] :: physicalLines rest
    else
      match physicalLines rest with
      | [] => [[c]]
      | l :: ls => (c :: l) :: ls

def withoutLineEnd (l : List Char) : List Char :=
  match l.reverse with
  | '\n' :: '\r' :: r => r.reverse
  | '\n' :: r => r.reverse
  | _ => l

/-- The lines after those that go on are joined; none for one that never ends. -/
def logicalLines (st : LineState) (start : List Char) : List (List Char) → List (Option (List Char))
  | [] => if st = .complete then [] else [none]
  | l :: rest =>
    if ((start ++ l).dropWhile Text.isBlank).head? = some '#' then
      some [] :: logicalLines .complete [] rest
    else
      match st.scan l with
      | (.comment, before) => some (start ++ before) :: logicalLines .complete [] rest
      | (.complete, _) => some (withoutLineEnd (start ++ l)) :: logicalLines .complete [] rest
      | (st, _) => logicalLines st (start ++ l) rest

/-! ## Values -/

/-- What names stand for: the variables of the process, and the values of earlier lines. -/
structure Scope where
  env : Environment
  earlier : Assoc String String := []

/-- The value of a name; nothing for an unknown one. -/
def Scope.valueOf (s : Scope) (name : List Char) : List Char :=
  let name := String.ofList name
  (((s.env.value? name).or (s.earlier.get? name)).getD "").toList

/-- What the next character of a value means. -/
inductive ValueState where
  | plain
  | weak
  | strong
  /-- After a backslash, within weak quotes or not. -/
  | escaped (quoted : Bool)
  /-- In a name after `$`, which ends at the first other character. -/
  | name (quoted : Bool) (sofar : List Char)
  /-- In a name in braces. -/
  | braced (quoted : Bool) (sofar : List Char)
  /-- After the value, where only a comment may stand. -/
  | ending
deriving DecidableEq, Repr

def escapedChar? (c : Char) : Option Char :=
  match c with
  | '\\' | '\'' | '"' | '$' | ' ' => some c
  | 'n' => some '\n'
  | _ => none

def quotedState (quoted : Bool) : ValueState :=
  if quoted then .weak else .plain

/-- The value of characters, from a state on. -/
def value (s : Scope) : ValueState → List Char → Option (List Char)
  | .plain, [] | .ending, [] | .escaped false, [] => some []
  | .name false n, [] => some (s.valueOf n)
  | _, [] => none
  | .ending, c :: r => if c = ' ' ∨ c = '\t' then value s .ending r else if c = '#' then some [] else none
  | .escaped q, c :: r => do
    let d ← escapedChar? c
    let v ← value s (quotedState q) r
    some (d :: v)
  | .strong, c :: r => if c = '\'' then value s .plain r else (value s .strong r).map (c :: ·)
  | .name q n, c :: r =>
    if Text.isAlphanumeric c then value s (.name q (n ++ [c])) r
    else if c = '\x7b' ∧ n = [] then value s (.braced q []) r
    else if c = '$' then (value s (.name q []) r).map (s.valueOf n ++ ·)
    else (value s (quotedState q) r).map (s.valueOf n ++ c :: ·)
  | .braced q n, c :: r =>
    if Text.isAlphanumeric c ∨ c ≠ '\x7d' then value s (.braced q (n ++ [c])) r
    else (value s (quotedState q) r).map (s.valueOf n ++ ·)
  | .weak, c :: r =>
    if c = '$' then value s (.name true []) r
    else if c = '"' then value s .plain r
    else if c = '\\' then value s (.escaped true) r
    else (value s .weak r).map (c :: ·)
  | .plain, c :: r =>
    if c = '$' then value s (.name false []) r
    else if c = '\'' then value s .strong r
    else if c = '"' then value s .weak r
    else if c = '\\' then value s (.escaped false) r
    else if c = ' ' ∨ c = '\t' then value s .ending r
    else (value s .plain r).map (c :: ·)

/-! ## Variables -/

def isNameStart (c : Char) : Bool :=
  c.isAlpha || c = '_'

def isNameChar (c : Char) : Bool :=
  c.isAlphanum || c = '_' || c = '.'

def skipBlanks (s : List Char) : List Char :=
  s.dropWhile Text.isBlank

/-- A name, blanks after it skipped. -/
def name? (s : List Char) : Option (String × List Char) :=
  match s with
  | [] => none
  | c :: _ =>
    if isNameStart c then some (String.ofList (s.takeWhile isNameChar), skipBlanks (s.dropWhile isNameChar))
    else none

/-- What a line comes to. -/
inductive LineResult where
  | nothing
  | assign (name value : String)
  | malformed

/-- Name and the text of the value; the name may have `export` before it. -/
def assignment? (s : List Char) : Option (String × List Char) := do
  let (k, r) ← name? s
  match Text.expect? '=' r with
  | some r => some (k, skipBlanks r)
  | none =>
    if k = "export" then
      let (k, r) ← name? r
      let r ← Text.expect? '=' r
      some (k, skipBlanks r)
    else none

def readLine (s : Scope) (line : List Char) : LineResult :=
  match skipBlanks (Text.trimEndChars line) with
  | [] => .nothing
  | '#' :: _ => .nothing
  | l =>
    match assignment? l with
    | none => .malformed
    | some (k, []) => .assign k ""
    | some (k, '#' :: _) => .assign k ""
    | some (k, v) =>
      match value s .plain v with
      | some v => .assign k (String.ofList v)
      | none => .malformed

/-- The environment with the variables of lines; those that are there as texts stay. -/
def loadLines (s : Scope) : List (Option (List Char)) → Except LoadError Environment
  | [] => .ok s.env
  | none :: _ => .ok s.env
  | some l :: rest =>
    match readLine s l with
    | .nothing => loadLines s rest
    | .malformed => .ok s.env
    | .assign k v => do
      let env ← if (s.env.value? k).isSome then .ok s.env else s.env.set k v
      loadLines ⟨env, s.earlier.insert k v⟩ rest

/-- The environment with the variables of a file. -/
def load (content : String) (env : Environment) : Except LoadError Environment :=
  let cs := match content.toList with
    | '\uFEFF' :: r => r
    | cs => cs
  loadLines ⟨env, []⟩ (logicalLines .complete [] (physicalLines cs))

end AccessGate.Settings.DotEnv
