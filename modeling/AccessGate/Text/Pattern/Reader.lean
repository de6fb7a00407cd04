/-
Reading patterns from text. `*`, `+` and `?` repeat what is before them, reluctantly with one more `?`;
`|` parts branches; parentheses group, and may name the group or set flags; brackets hold classes, which
may nest and be joined by set operations. Counted repetition, looking ahead or behind and references to
groups are not supported, and no character may be matched in part.
-/
import AccessGate.Text.Digit
import AccessGate.Text.Pattern
import AccessGate.Text.Split

namespace AccessGate.Text

/-- Why a pattern is refused. -/
inductive PatternError where
  | malformed
  /-- It asks for edges of words of all scripts, which bytes do not show. -/
  | hiddenEdge
deriving DecidableEq, Repr

def PatternError.message : PatternError → String
  | malformed => "error building NFA"
  | hiddenEdge =>
    "unsupported regex feature for DFAs: cannot build DFAs for regexes with Unicode word boundaries; "
      ++ "switch to ASCII word boundaries, or heuristically enable Unicode word boundaries "
      ++ "or use a different regex engine"

namespace Pattern

/-- What flags change. -/
structure Flags where
  ignoreCase : Bool := false
  /-- Whether the ends of lines count as ends. -/
  lines : Bool := false
  /-- Whether a point stands for the ends of lines too. -/
  dotAll : Bool := false
  /-- Whether repetitions are reluctant unless a `?` follows. -/
  reluctant : Bool := false
  /-- Whether carriage returns end lines too. -/
  returns : Bool := false
  /-- Whether classes, edges and cases are those of all scripts, or those of ASCII. -/
  scripts : Bool := true
  /-- Whether blanks and comments are skipped. -/
  spaced : Bool := false
deriving Repr

/-- The input without blanks and comments, if they are to be skipped. -/
def skipFor (f : Flags) : Nat → List Char → List Char
  | 0, s => s
  | fuel + 1, s =>
    if f.spaced then
      match s with
      | '#' :: r => skipFor f fuel (r.dropWhile (· ≠ '\n'))
      | c :: r => if isBlank c then skipFor f fuel r else s
      | [] => []
    else s

def Flags.skip (f : Flags) (s : List Char) : List Char :=
  skipFor f (s.length + 1) s

/-! ## Escapes -/

/-- What an escape stands for. -/
inductive Escape where
  | literal (c : Char)
  | set (k : CharClass)
  | edge (e : Edge)

/-- So many hexadecimal digits, in reverse. -/
def hexDigits? (f : Flags) : Nat → List Char → List Char → Option (List Char × List Char)
  | 0, acc, s => some (acc, s)
  | n + 1, acc, s =>
    match f.skip s with
    | c :: r => if isDigitOf 16 c then hexDigits? f n (c :: acc) r else none
    | [] => none

/-- A character by so many hexadecimal digits. -/
def coded? (f : Flags) (n : Nat) (s : List Char) : Option (Char × List Char) := do
  let (ds, rest) ← hexDigits? f n [] s
  let c ← charOfCode? (naturalOf 16 ds.reverse)
  some (c, rest)

/-- A class or its complement. Without the characters of all scripts there is no complement: it would
hold parts of characters. -/
def negate? (f : Flags) (negated : Bool) (k : CharClass) : Option CharClass :=
  if !negated then some k
  else if f.scripts then some (.complement k)
  else none

/-- A class with the other cases of its characters, if case is ignored. -/
def Flags.fold (f : Flags) (k : CharClass) : CharClass :=
  if f.ignoreCase then .anyCase f.scripts k else k

/-- The class of a category by its letter. -/
def category? (f : Flags) (negated : Bool) (s : List Char) : Option (CharClass × List Char) :=
  match f.skip s with
  | c :: r =>
    if f.scripts then do
      let k ← Category.named? c
      let k ← negate? f negated (f.fold (.category k))
      some (k, r)
    else none
  | [] => none

/-- The class of digits, blanks or word characters. -/
def Flags.named (f : Flags) (c : Char) : CharClass :=
  let inScripts := match c with
    | 'd' => .digit
    | 's' => .blank
    | _ => .word
  let inAscii := match c with
    | 'd' => "digit"
    | 's' => "space"
    | _ => "word"
  if f.scripts then inScripts else (CharClass.ascii? inAscii).getD .none

/-- What an escaped letter stands for. -/
def lettered? (f : Flags) (c : Char) : Option Escape :=
  match c with
  | 'd' | 's' | 'w' => some (.set (f.named c))
  | 'D' | 'S' | 'W' => (negate? f true (f.named c.toLower)).map .set
  | 'a' => some (.literal '\x07')
  | 'f' => some (.literal '\x0c')
  | 't' => some (.literal '\t')
  | 'n' => some (.literal '\n')
  | 'r' => some (.literal '\r')
  | 'v' => some (.literal '\x0b')
  | 'A' => some (.edge .textStart)
  | 'z' => some (.edge .textEnd)
  | 'b' => some (.edge (.word f.scripts .either))
  | 'B' => some (.edge (.word f.scripts .neither))
  | '<' => some (.edge (.word f.scripts .start))
  | '>' => some (.edge (.word f.scripts .finish))
  | _ => none

/-- The escape after a backslash. -/
def escape? (f : Flags) (s : List Char) : Option (Escape × List Char) :=
  match s with
  | [] => none
  | 'x' :: r => do
    let (c, r) ← coded? f 2 r
    -- Without the characters of all scripts this would be a byte.
    if f.scripts ∨ c.toNat < 128 then some (.literal c, r) else none
  | 'u' :: r => (coded? f 4 r).map fun x => (.literal x.1, x.2)
  | 'U' :: r => (coded? f 8 r).map fun x => (.literal x.1, x.2)
  | 'p' :: r => (category? f false r).map fun x => (.set x.1, x.2)
  | 'P' :: r => (category? f true r).map fun x => (.set x.1, x.2)
  | c :: r =>
    match lettered? f c with
    | some e => some (e, r)
    | none => if c.isAlphanum ∨ 128 ≤ c.toNat then none else some (.literal c, r)

/-! ## Classes -/

/-- A named class of ASCII characters after its `[:`. -/
def asciiClass? (f : Flags) (s : List Char) : Option (Option CharClass × List Char) := do
  let (negated, s) := match s with
    | '^' :: r => (true, r)
    | r => (false, r)
  let (name, rest) ← splitOnce? [':', ']'] s
  let k ← CharClass.ascii? (String.ofList name)
  some (negate? f negated (f.fold k), rest)

/-- How two classes are joined. -/
inductive SetOp where
  | inter
  | diff
  | symDiff

def SetOp.join : SetOp → CharClass → CharClass → CharClass
  | inter, k, l => .inter k l
  | diff, k, l => .inter k (.complement l)
  | symDiff, k, l => .union (.inter k (.complement l)) (.inter l (.complement k))

/-- The items of a class: their union, their number, and how deep they nest. -/
structure Items where
  set : CharClass := .none
  number : Nat := 0
  depth : Nat := 0

def Items.add (i : Items) (k : CharClass) (depth : Nat) : Items :=
  ⟨.union i.set k, i.number + 1, max i.depth depth⟩

/-- How deep items nest as a whole: several of them are one level deeper. -/
def Items.level (i : Items) : Nat :=
  if i.number ≤ 1 then i.depth else i.depth + 1

/-- What is to be joined with the items that follow: the operation, the class before it and its depth. -/
abbrev Joined := Option (SetOp × CharClass × Nat)

/-- The class before an operation or a closing bracket, and its depth. -/
def finishClass (f : Flags) (left : Joined) (items : Items) : CharClass × Nat :=
  match left with
  | none => (items.set, items.level)
  | some (op, k, depth) => (op.join (f.fold k) (f.fold items.set), max depth items.level + 1)

/-- One item that is no bracket. Without the characters of all scripts it is one of ASCII. -/
def classItem? (f : Flags) (s : List Char) : Option (Escape × List Char) := do
  let (e, r) ← match s with
    | [] => none
    | '\\' :: r => escape? f r
    | c :: r => some (.literal c, r)
  match e with
  | .literal c => if f.scripts ∨ c.toNat < 128 then some (e, r) else none
  | _ => some (e, r)

def Escape.class? : Escape → Option CharClass
  | literal c => some (.only c)
  | set k => some k
  | edge _ => none

/-- The first character that is neither a blank nor the mark of a comment, of which one is passed over. -/
def peekPast (comment : Bool) : List Char → Option Char
  | [] => none
  | c :: r =>
    if isBlank c then peekPast comment r
    else if c = '#' ∧ !comment then peekPast true r
    else some c

def Flags.peek (f : Flags) (s : List Char) : Option Char :=
  if f.spaced then peekPast false s else s.head?

/-- Dashes right at the start of a class, which stand for themselves. -/
def leadingDashes (f : Flags) : Nat → Items → List Char → Items × List Char
  | 0, items, s => (items, s)
  | fuel + 1, items, s =>
    match s with
    | '-' :: r => leadingDashes f fuel (items.add (.only '-') 0) (f.skip r)
    | _ => (items, s)

mutual

/-- A class after its opening bracket, and its depth. A closing bracket right at its start stands for
itself. -/
def bracketed (f : Flags) : Nat → List Char → Option ((CharClass × Nat) × List Char)
  | 0, _ => none
  | fuel + 1, s => do
    let (negated, s) := match f.skip s with
      | '^' :: r => (true, f.skip r)
      | r => (false, r)
    let (items, s) := leadingDashes f s.length {} s
    let (items, s) := match items.number, s with
      | 0, ']' :: r => (items.add (.only ']') 0, r)
      | _, r => (items, r)
    let ((k, depth), r) ← classItems f fuel none items s
    let k ← negate? f negated (f.fold k)
    some ((k, depth + 1), r)

/-- The class after the items read so far, up to its closing bracket, and its depth. -/
def classItems (f : Flags) : Nat → Joined → Items → List Char → Option ((CharClass × Nat) × List Char)
  | 0, _, _, _ => none
  | fuel + 1, left, items, s =>
    let join (op : SetOp) (r : List Char) :=
      let (k, depth) := finishClass f left items
      classItems f fuel (some (op, k, depth)) {} r
    match f.skip s with
    | [] => none
    | ']' :: r => some (finishClass f left items, r)
    | '&' :: '&' :: r => join .inter r
    | '-' :: '-' :: r => join .diff r
    | '~' :: '~' :: r => join .symDiff r
    | '[' :: r =>
      let named := match r with
        | ':' :: r => asciiClass? f r
        | _ => none
      match named with
      | some (none, _) => none
      | some (some k, r) => classItems f fuel left (items.add k 0) r
      | none => do
        let ((k, depth), r) ← bracketed f fuel r
        classItems f fuel left (items.add k depth) r
    | s => do
      let (a, r) ← classItem? f s
      let single (r : List Char) := do
        let k ← a.class?
        classItems f fuel left (items.add k 0) r
      match f.skip r with
      | '-' :: t =>
        if f.peek t = some ']' ∨ f.peek t = some '-' then single r
        else do
          let (b, t) ← classItem? f (f.skip t)
          match a, b with
          | .literal a, .literal b =>
            if b < a then none else classItems f fuel left (items.add (.range a.toNat b.toNat) 0) t
          | _, _ => none
      | r => single r

end

/-! ## Groups -/

/-- Flags up to the mark that ends them, which is a colon or a closing parenthesis. -/
def flags (seen : List Char) (negated : Bool) (f : Flags) : List Char → Option (Flags × Char × List Char)
  | [] => none
  | c :: r =>
    if c = ':' ∨ c = ')' then
      if seen.head? = some '-' ∨ (c = ')' ∧ seen = []) then none else some (f, c, r)
    else if seen.contains c then none
    else
      let on := !negated
      match c with
      | '-' => flags (c :: seen) true f r
      | 'i' => flags (c :: seen) negated { f with ignoreCase := on } r
      | 'm' => flags (c :: seen) negated { f with lines := on } r
      | 's' => flags (c :: seen) negated { f with dotAll := on } r
      | 'U' => flags (c :: seen) negated { f with reluctant := on } r
      | 'u' => flags (c :: seen) negated { f with scripts := on } r
      | 'R' => flags (c :: seen) negated { f with returns := on } r
      | 'x' => flags (c :: seen) negated { f with spaced := on } r
      | _ => none

/-- The name of a group and the input after its `>`. -/
def groupName? (s : List Char) : Option (List Char × List Char) :=
  match s.takeWhile (· ≠ '>'), s.dropWhile (· ≠ '>') with
  | c :: name, '>' :: r =>
    if (c = '_' ∨ isAlphabetic c)
        ∧ name.all (fun d => d = '_' || d = '.' || d = '[' || d = ']' || isAlphanumeric d) then
      some (c :: name, r)
    else none
  | _, _ => none

/-- What opens a group. -/
inductive Opening where
  | group (f : Flags) (name : Option (List Char)) (rest : List Char)
  /-- Flags for all that follows. -/
  | setFlags (f : Flags) (rest : List Char)

/-- The opening of a group after its parenthesis. -/
def opening? (f : Flags) (s : List Char) : Option Opening :=
  let named (r : List Char) := (groupName? r).map fun n => Opening.group f (some n.1) n.2
  match f.skip s with
  | '?' :: 'P' :: '<' :: r => named r
  | '?' :: '<' :: r => named r
  | '?' :: r =>
    match flags [] false f r with
    | some (f, ':', r) => some (.group f none r)
    | some (f, _, r) => some (.setFlags f r)
    | none => none
  | r => some (.group f none r)

/-! ## Patterns -/

/-- A pattern as it is read, and how deep it nests. -/
structure Part where
  pattern : Pattern
  depth : Nat := 0

namespace Part

def deepest (parts : List Part) : Nat :=
  parts.foldl (fun d p => max d p.depth) 0

/-- The sequence of parts given in reverse; several of them are one level deeper. -/
def sequence (items : List Part) : Part :=
  match items with
  | [p] => p
  | _ =>
    { pattern := items.foldl (fun q p => seq p.pattern q) empty
      depth := if items.isEmpty then 0 else deepest items + 1 }

def choicePattern : List Part → Part → Pattern
  | [], p => p.pattern
  | q :: rest, p => either q.pattern (choicePattern rest p)

/-- The choice between finished branches and the last one. -/
def choice (before : List Part) (last : Part) : Part :=
  if before.isEmpty then last else ⟨choicePattern before last, deepest (last :: before) + 1⟩

/-- The part one level deeper. -/
def within (p : Part) (pattern : Pattern) : Part :=
  ⟨pattern, p.depth + 1⟩

end Part

/-- A repetition by its mark. -/
def repeated? (mark : Char) (greedy : Bool) (p : Pattern) : Option Pattern :=
  match mark with
  | '*' => some (many greedy p)
  | '+' => some (more greedy p)
  | '?' => some (optional greedy p)
  | _ => none

/-- A character that stands for itself. -/
def literal (f : Flags) (c : Char) : Pattern :=
  char (f.fold (.only c))

def escaped (f : Flags) : Escape → Pattern
  | .literal c => literal f c
  | .set k => char k
  | .edge e => edge e

/-- What a point stands for. -/
def dot (f : Flags) : CharClass :=
  if f.dotAll then .any
  else if f.returns then .complement (.union (.only '\n') (.only '\r'))
  else .complement (.only '\n')

/-- The pattern up to the end of the input or an unmatched closing parenthesis, and the names of groups
with those of `names`. `before` holds the branches that are finished, `items` the current one in reverse,
and `repeatable` says whether its last item may be repeated. -/
def body : Nat → Flags → List (List Char) → List Part → List Part → Bool → List Char →
    Option (Part × List (List Char) × List Char)
  | 0, _, _, _, _, _, _ => none
  | fuel + 1, f, names, before, items, repeatable, s =>
    let one (p : Part) (r : List Char) := body fuel f names before (p :: items) true r
    match f.skip s with
    | [] => some (Part.choice before (Part.sequence items), names, [])
    | ')' :: r => some (Part.choice before (Part.sequence items), names, ')' :: r)
    | '|' :: r => body fuel f names (before ++ [Part.sequence items]) [] false r
    | '(' :: r =>
      match opening? f r with
      | none => none
      | some (.setFlags f r) => body fuel f names before (⟨empty, 0⟩ :: items) false r
      | some (.group g name r) =>
        if name.any names.contains then none
        else
          match body fuel g (name.toList ++ names) [] [] false r with
          | some (p, names, ')' :: r) => body fuel f names before (p.within p.pattern :: items) true r
          | _ => none
    | '[' :: r => do
      let ((k, depth), r) ← bracketed f (2 * r.length + 2) r
      one ⟨char k, depth⟩ r
    | '\\' :: r => do
      let (e, r) ← escape? f r
      one ⟨escaped f e, 0⟩ r
    | '.' :: r => if f.scripts then one ⟨char (dot f), 0⟩ r else none
    | '^' :: r => one ⟨edge (if f.lines then .lineStart f.returns else .textStart), 0⟩ r
    | '$' :: r => one ⟨edge (if f.lines then .lineEnd f.returns else .textEnd), 0⟩ r
    | '\x7b' :: _ => none
    | c :: r =>
      if c = '*' ∨ c = '+' ∨ c = '?' then
        match repeatable, items with
        | true, p :: items =>
          let (marked, r) := match r with
            | '?' :: r => (true, r)
            | r => (false, r)
          match repeated? c (marked == f.reluctant) p.pattern with
          | some q => body fuel f names before (p.within q :: items) true r
          | none => none
        | _, _ => none
      else one ⟨literal f c, 0⟩ r

/-- How deep a pattern may nest. -/
def maxDepth : Nat := 250

/-- The pattern that a text is. -/
def ofText (s : List Char) : Except PatternError Pattern :=
  match body (2 * s.length + 2) {} [] [] [] false s with
  | some (p, _, []) =>
    if maxDepth < p.depth then .error .malformed
    else if p.pattern.hasHiddenEdge then .error .hiddenEdge
    else .ok p.pattern
  | _ => .error .malformed

end Pattern

end AccessGate.Text
