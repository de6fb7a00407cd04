/-
Reading drafts against shapes, part by part in the order of the text, so that the first thing that is
wrong decides. What a shape does not know is passed over. Of a field given twice the last value counts
and all have to be right; a strict record does not take a field twice.
-/
import AccessGate.Json.Draft
import AccessGate.Kind.Shape

namespace AccessGate.Shape

open Json (Draft Fault)

def orUnfit {α : Type} (x : Option α) : Except Fault α :=
  match x with
  | some a => .ok a
  | none => .error .unfit

/-- Whether null stands for the absence of a field. -/
def mayBeNull : Presence → Bool
  | .optional | .filled => true
  | .defaulted | .mandatory => false

/-- The value of a field that no text gives, if it need not be given. -/
def absent (p : Presence) (s : Shape) : Except Fault (Option Json) :=
  match p with
  | .optional => .ok none
  | .filled | .defaulted => .ok (some s.zero)
  | .mandatory => .error .unfit

/-- What the fields of a record are, given what a text says of them; the last for a field counts. -/
def membersOf (given : List (String × Option Json)) :
    List (String × Presence × Shape) → Except Fault (List (String × Json))
  | [] => .ok []
  | (k, p, s) :: rest => do
    let value ← match given.reverse.lookup k with
      | some (some j) => .ok (some j)
      | _ => absent p s
    let members ← membersOf given rest
    .ok (Json.member? k value ++ members)

variable (read : Shape → Draft → Except Fault Json)

/-- A field's value; null may stand for its absence. -/
def fieldOf (p : Presence) (s : Shape) (d : Draft) : Except Fault (Option Json) :=
  match d with
  | .scalar (.ok .null) _ => if mayBeNull p then .ok none else (read s d).map some
  | d => (read s d).map some

/-- What the members of an object say of the fields of a record, in order. -/
def givenIn (strict : Bool) (fields : List (String × Presence × Shape)) :
    List (String × Option Json) → List (Draft × Draft) → Except Fault (List (String × Option Json))
  | given, [] => .ok given
  | given, (k, d) :: rest => do
    let k ← k.text
    match fields.lookup k with
    | none => do
      d.passed
      givenIn strict fields given rest
    | some (p, s) =>
      if strict ∧ given.any (·.1 = k) then .error .unfit
      else do
        let value ← fieldOf read p s d
        givenIn strict fields (given ++ [(k, value)]) rest

/-- The members of a record that a list gives the values of. -/
def listedMembers : List (String × Presence × Shape) → List Draft → Except Fault (List (String × Json))
  | [], [] => .ok []
  | [], d :: _ => do
    d.passed
    .error .unfit
  | (k, p, s) :: fields, [] => do
    let value ← absent p s
    let members ← listedMembers fields []
    .ok (Json.member? k value ++ members)
  | (k, p, s) :: fields, d :: ds => do
    let value ← match ← fieldOf read p s d with
      | some j => .ok (some j)
      | none => absent p s
    let members ← listedMembers fields ds
    .ok (Json.member? k value ++ members)

/-- What a draft of this shape stands for, as `read?` says for documents. Its lists and objects may nest so
deep. -/
def ofDraft : Nat → Shape → Draft → Except Fault Json
  | _, s, .scalar v _ => do
    let j ← v
    orUnfit (s.read? j)
  | depth, .anything, d => d.value depth
  | 0, _, _ => .error .unfit
  | depth + 1, .list s, .list items _ => (items.mapM (ofDraft depth s)).map .arr
  | depth + 1, .dict s, .object members _ =>
    (members.mapM fun (m : Draft × Draft) => do
      let k ← m.1.text
      let j ← ofDraft depth s m.2
      .ok (k, j)).map Json.object
  | depth + 1, .record true fields, .list items _ => (listedMembers (ofDraft depth) fields items).map Json.object
  | depth + 1, .record strict fields, .object members _ => do
    let given ← givenIn (ofDraft depth) strict fields [] members
    let members ← membersOf given fields
    .ok (.object members)
  | _, _, _ => .error .unfit

end AccessGate.Shape
