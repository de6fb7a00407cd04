/-
The tables of a TOML document while it is read. A table is opened by a header, by the path of a header
that passes through it, or by a dotted key. No table may be opened twice in ways that could change what
was written before: a header may open a table that only a path has passed through, and a dotted key
only goes through tables that dotted keys made.
-/
import AccessGate.Json.Basic

namespace AccessGate.Toml

/-- How a table came about. -/
inductive Origin where
  /-- A header names it, or it is the document or an inline table. -/
  | header
  /-- The path of a header passes through it. -/
  | path
  /-- A dotted key passes through it. -/
  | dotted
deriving DecidableEq, Repr

/-- What a key stands for. -/
inductive Node where
  | value (j : Json)
  | table (origin : Origin) (members : List (String × Node))
  | tables (items : List (List (String × Node)))

abbrev Members := Assoc String Node

namespace Members

/-- Changes the table that a path leads to. Tables that are missing on the way are made; in a list of
tables the way goes through the last. -/
def change (made : Origin) (f : Origin → Members → Option Members) :
    Origin → List String → Members → Option Members
  | here, [], ms => f here ms
  | _, k :: path, ms =>
    match ms.get? k with
    | none => (change made f made path []).map fun t => ms.insert k (.table made t)
    | some (.value _) => none
    | some (.tables ts) =>
      match ts.getLast? with
      | none => none
      | some t =>
        (change made f .header path t).map fun t => ms.insert k (.tables (ts.dropLast ++ [t]))
    | some (.table o t) =>
      if made = .dotted ∧ o = .header then none
      else (change made f o path t).map fun t => ms.insert k (.table o t)

/-- Adds a member whose key may be dotted to a table. The table that it lands in has to be made by
dotted keys, if the key is dotted, and only then. -/
def add (here : Origin) (path : List String) (k : String) (v : Json) (ms : Members) : Option Members :=
  change .dotted (fun o t =>
    if (o = .dotted) = (path = []) then none
    else if t.has k then none
    else some (t.insert k (.value v))) here path ms

/-- Adds a member to the table that a header opened. -/
def addUnder (header path : List String) (k : String) (v : Json) (ms : Members) : Option Members :=
  change .path (fun o t => add o path k v t) .header header ms

/-- Opens a table by its header. -/
def openTable (parents : List String) (k : String) (ms : Members) : Option Members :=
  change .path (fun _ t =>
    match t.get? k with
    | none => some (t.insert k (.table .header []))
    | some (.table .path u) => some (t.insert k (.table .header u))
    | some _ => none) .header parents ms

/-- Opens one more table of a list by its header. -/
def openItem (parents : List String) (k : String) (ms : Members) : Option Members :=
  change .path (fun _ t =>
    match t.get? k with
    | none => some (t.insert k (.tables [[]]))
    | some (.tables ts) => some (t.insert k (.tables (ts ++ [[]])))
    | some _ => none) .header parents ms

end Members

/-! ## The finished document -/

mutual

def Node.toJson : Node → Json
  | .value j => j
  | .table _ ms => .obj (membersJson ms)
  | .tables ts => .arr (tablesJson ts)

def membersJson : List (String × Node) → List (String × Json)
  | [] => []
  | (k, n) :: rest => (k, n.toJson) :: membersJson rest

def tablesJson : List (List (String × Node)) → List Json
  | [] => []
  | t :: rest => .obj (membersJson t) :: tablesJson rest

end

end AccessGate.Toml
