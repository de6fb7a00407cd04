/-
TOML documents, read as data documents. A document is a sequence of lines: blank ones, comments,
headers of tables and members of the table whose header came last.
-/
import AccessGate.Toml.Value

namespace AccessGate.Toml

/-- A document while it is read: its tables, and the header that members go under. -/
structure Draft where
  members : Members := []
  header : List String := []

/-- The input after the rest of a line: spaces, a comment and the line end or the end of the input. -/
def restOfLine? (s : List Char) : Option (List Char) :=
  match skipComment (skipSpaces s) with
  | [] => some []
  | s => lineEnd? s

/-- A key and its closing marks. -/
def closed? (marks : List Char) (s : List Char) : Option (Key × List Char) := do
  let (k, r) ← key? s
  let r ← marks.foldlM (fun r m => Text.expect? m r) r
  some (k, r)

/-- Takes one line that is not blank; spaces before it are skipped already. -/
def Draft.line? (d : Draft) (s : List Char) : Option (Draft × List Char) :=
  match s with
  | '[' :: '[' :: r => do
    let (k, r) ← closed? [']', ']'] r
    let ms ← d.members.openItem k.path k.last
    some (⟨ms, k.path ++ [k.last]⟩, r)
  | '[' :: r => do
    let (k, r) ← closed? [']'] r
    let ms ← d.members.openTable k.path k.last
    some (⟨ms, k.path ++ [k.last]⟩, r)
  | s => do
    let (k, r) ← key? s
    let r ← Text.expect? '=' r
    let (v, r) ← value? (skipSpaces r)
    let ms ← d.members.addUnder d.header k.path k.last v
    some ({ d with members := ms }, r)

/-- Takes lines to the end of the input. -/
def Draft.lines : Nat → Draft → List Char → Option Draft
  | 0, _, _ => none
  | fuel + 1, d, s =>
    match skipFiller (s.length + 1) s with
    | [] => some d
    | '#' :: r => if (skipComment ('#' :: r)).isEmpty then some d else none
    | s => do
      let (d, r) ← d.line? s
      let r ← restOfLine? r
      Draft.lines fuel d r

/-- The characters of a text without the byte order mark that may stand first. -/
def withoutMark (s : List Char) : List Char :=
  match s with
  | '\uFEFF' :: r => r
  | s => s

/-- The document that a text is. -/
def parse? (s : String) : Option Json :=
  let cs := withoutMark s.toList
  (Draft.lines (cs.length + 1) {} cs).map fun d => (Node.table .header d.members).toJson

end AccessGate.Toml
