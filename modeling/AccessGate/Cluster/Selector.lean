/-
Label selectors: terms joined by commas, all of which have to hold. A term says that a label has a
value, has another one or none, is there, or is not there.
-/
import AccessGate.Cluster.Error
import AccessGate.Cluster.Object
import AccessGate.Text.Blank
import AccessGate.Text.Split

namespace AccessGate.Cluster

/-- One term of a selector. -/
inductive Requirement where
  | equals (key value : String)
  | notEquals (key value : String)
  | present (key : String)
  | absent (key : String)
deriving DecidableEq, Repr

namespace Requirement

/-- Whether labels satisfy a term. -/
def holds (labels : Assoc String String) : Requirement → Bool
  | equals k v => labels.get? k = some v
  | notEquals k v => labels.get? k ≠ some v
  | present k => labels.has k
  | absent k => !labels.has k

/-- Whether a term is written in the syntax of sets, which is not supported. -/
def isSetBased (term : List Char) : Bool :=
  Text.contains " in ".toList term || Text.contains " notin ".toList term || term.contains '('

def trimmed (cs : List Char) : String :=
  String.ofList (Text.trimChars cs)

/-- Reads a term that has no blanks around it. The first of the signs for unequal and equal splits it. -/
def ofTerm (term : List Char) : Except Error Requirement :=
  if isSetBased term then
    .error (.unsupported ("set-based label selector " ++ Text.quoted (String.ofList term)))
  else
    match Text.splitOnce? ['!', '='] term with
    | some (k, v) => .ok (.notEquals (trimmed k) (trimmed v))
    | none =>
      match Text.splitOnce? ['=', '='] term with
      | some (k, v) => .ok (.equals (trimmed k) (trimmed v))
      | none =>
        match Text.splitOnce? ['='] term with
        | some (k, v) => .ok (.equals (trimmed k) (trimmed v))
        | none =>
          match term with
          | '!' :: k => .ok (.absent (trimmed k))
          | k => .ok (.present (String.ofList k))

end Requirement

/-- Terms that all have to hold. -/
abbrev Selector := List Requirement

namespace Selector

/-- The terms of a selector text, blanks around them and empty terms dropped. -/
def terms (s : String) : List (List Char) :=
  ((Text.splitChars ',' s.toList).map Text.trimChars).filter fun t => !t.isEmpty

/-- Reads a selector; the first term that cannot be read is the error. -/
def parse (s : String) : Except Error Selector :=
  (terms s).mapM Requirement.ofTerm

def isMatch (s : Selector) (o : Object) : Bool :=
  s.all (Requirement.holds o.labels)

end Selector

/-- Which objects of a collection an operation is about, and how many at a time. -/
structure Selection where
  labels : Option String := none
  fields : Option String := none
  limit : Option Nat := none
  continueToken : Option String := none
deriving DecidableEq, Repr

/-- The label selector of a selection. Selecting by fields is not supported, and all objects come at
once. -/
def Selection.selector (s : Selection) : Except Error Selector :=
  match s.fields.getD "" with
  | "" => Selector.parse (s.labels.getD "")
  | fields => .error (.unsupported ("field selector " ++ Text.quoted fields))

end AccessGate.Cluster
