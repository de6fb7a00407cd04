/-
Cutting text at separators.
-/
namespace AccessGate.Text

/-- The pieces between the separators; one more piece than separators. -/
def splitChars (sep : Char) : List Char → List (List Char)
  | [] => [[]]
  | c :: rest =>
    if c = sep then [] :: splitChars sep rest
    else
      match splitChars sep rest with
      | [] => [[c]]
      | piece :: pieces => (c :: piece) :: pieces

/-- The pieces between the separators; one more piece than separators. -/
def splitOn (sep : Char) (s : String) : List String :=
  (splitChars sep s.toList).map String.ofList

/-- The input after the given start. -/
def dropStart? (start : List Char) (s : List Char) : Option (List Char) :=
  match start, s with
  | [], s => some s
  | _ :: _, [] => none
  | p :: ps, c :: cs => if p = c then dropStart? ps cs else none

/-- The input after one given character. -/
def expect? (c : Char) : List Char → Option (List Char)
  | [] => none
  | d :: r => if c = d then some r else none

/-- The text before and after the first occurrence of a mark. -/
def splitOnce? (mark : List Char) (s : List Char) : Option (List Char × List Char) :=
  match dropStart? mark s with
  | some rest => some ([], rest)
  | none =>
    match s with
    | [] => none
    | c :: cs => (splitOnce? mark cs).map fun r => (c :: r.1, r.2)

/-- Whether a mark occurs in the text. -/
def contains (mark : List Char) (s : List Char) : Bool :=
  (splitOnce? mark s).isSome

/-- The pieces between occurrences of a mark that is not empty, read from left to right. -/
def splitAll (mark : List Char) : Nat → List Char → List (List Char)
  | 0, s => [s]
  | fuel + 1, s =>
    match splitOnce? mark s with
    | none => [s]
    | some (before, after) => before :: splitAll mark fuel after

/-- The pieces of a text between occurrences of a mark that is not empty. -/
def splitOnMark (mark : String) (s : String) : List String :=
  (splitAll mark.toList s.toList.length s.toList).map String.ofList

end AccessGate.Text
