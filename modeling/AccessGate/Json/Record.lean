/-
Records in documents. A record is written as an object, or as the list of its values in the order of
its fields, from which trailing ones may be left out.
-/
import AccessGate.Json.Basic

namespace AccessGate.Json

/-- The fields given in a record whose fields are `names`. An object may have members of its own
besides; a list may not be longer than the record. -/
def record? (names : List String) : Json → Option (Assoc String Json)
  | .obj fields => some fields
  | .arr xs => if names.length < xs.length then none else some (names.zip xs)
  | _ => none

/-- As `record?`, but an object may have no other members. -/
def closedRecord? (names : List String) (j : Json) : Option (Assoc String Json) :=
  match j with
  | .obj fields => if fields.all fun f => names.contains f.1 then some fields else none
  | j => j.record? names

variable {α : Type}

/-- A field that has to be there. -/
def required (read : Json → Option α) (fields : Assoc String Json) (k : String) : Option α :=
  (fields.get? k).bind read

/-- A field that stands for a given value when it is absent. -/
def withDefault (read : Json → Option α) (d : α) (fields : Assoc String Json) (k : String) : Option α :=
  match fields.get? k with
  | none => some d
  | some j => read j

/-- A field that may be absent or null. -/
def nullable (read : Json → Option α) (fields : Assoc String Json) (k : String) : Option (Option α) :=
  match fields.get? k with
  | none => some none
  | some .null => some none
  | some j => (read j).map some

/-- The name of a choice without content: text, or an object with that one member, null. -/
def choice? : Json → Option String
  | .str s => some s
  | .obj [(s, .null)] => some s
  | _ => none

/-- A member for a value that may be absent. -/
def member? (k : String) (v : Option Json) : List (String × Json) :=
  match v with
  | none => []
  | some j => [(k, j)]

end AccessGate.Json
