/-
The shapes of documents that typed objects have. Reading a document against a shape drops what the
shape does not know and fails where a value has the wrong type; what comes out is the document that
the typed object is written as.
-/
import AccessGate.Json.Record
import AccessGate.Text.Base64
import AccessGate.Text.Timestamp

namespace AccessGate

/-- How a field of a record may be left out. -/
inductive Presence where
  /-- Absent or null, it is not written. -/
  | optional
  /-- Absent or null, it has the zero value of its shape. -/
  | filled
  /-- Absent, it has the zero value of its shape; null is a value like others. -/
  | defaulted
  /-- It has to be there. -/
  | mandatory
deriving DecidableEq, Repr

/-- The value that a field is written with, if it is, when it was given this or left out. -/
def Presence.read? (p : Presence) (zero : Json) (read : Json → Option Json) (given : Option Json) :
    Option (Option Json) :=
  match p, given with
  | .optional, none | .optional, some .null => some none
  | .filled, none | .filled, some .null | .defaulted, none => some (some zero)
  | .mandatory, none => none
  | _, some j => (read j).map some

/-- What a document has to look like. -/
inductive Shape where
  | anything
  | text
  /-- This text and no other. -/
  | exactly (s : String)
  | flag
  /-- A signed integer of so many bits. -/
  | integer (bits : Nat)
  /-- A natural number of so many bits. -/
  | natural (bits : Nat)
  /-- Bytes, written as text; null is none of them. -/
  | bytes
  | time
  | microTime
  | integerOrText
  | list (item : Shape)
  | dict (value : Shape)
  /-- An object with these fields. A `strict` record may also be a list of their values, and a text that
  gives one of its fields twice is not of its shape. -/
  | record (strict : Bool) (fields : List (String × Presence × Shape))

namespace Shape

mutual

/-- The value of a field that was left out. -/
def zero : Shape → Json
  | .anything => .null
  | .text | .bytes => .str ""
  | .exactly s => .str s
  | .flag => .bool false
  | .integer _ | .natural _ | .integerOrText => .int 0
  | .time => .str "1970-01-01T00:00:00Z"
  | .microTime => .str "1970-01-01T00:00:00.000000Z"
  | .list _ => .arr []
  | .dict _ => .obj []
  | .record _ fields => .object (zeroFields fields)

def zeroFields : List (String × Presence × Shape) → List (String × Json)
  | [] => []
  | (k, p, s) :: rest =>
    if p = .optional then zeroFields rest else (k, s.zero) :: zeroFields rest

end

mutual

/-- The document as an object of this shape is written, if it has the shape. -/
def read? : Shape → Json → Option Json
  | .anything, j => some j
  | .text, .str s => some (.str s)
  | .exactly t, .str s => if s = t then some (.str s) else none
  | .flag, .bool b => some (.bool b)
  | .integer bits, .int i =>
    if -(pow2 (bits - 1) : Int) ≤ i ∧ i < pow2 (bits - 1) then some (.int i) else none
  | .natural bits, .int i => if 0 ≤ i ∧ i < pow2 bits then some (.int i) else none
  | .bytes, .null => some (.str "")
  | .bytes, .str s => (Text.Base64.decode s.toList).map fun bs => .str (String.ofList (Text.Base64.encode bs))
  | .time, .str s => (Text.Timestamp.parse? s).map fun t => .str t.render
  | .microTime, .str s => (Text.Timestamp.parse? s).map fun t => .str t.renderMicros
  | .integerOrText, .str s => some (.str s)
  | .integerOrText, .int i => if -(pow2 31 : Int) ≤ i ∧ i < pow2 31 then some (.int i) else none
  | .list s, .arr xs => (xs.mapM (s.read? ·)).map .arr
  | .dict s, .obj fields => (fields.mapM fun f => (s.read? f.2).map (f.1, ·)).map .obj
  | .record strict fields, j => do
    let given ← if strict then j.record? (fields.map Prod.fst) else j.asFields?
    let members ← readFields? fields given
    some (.object members)
  | _, _ => none

/-- The members of a record that are written. -/
def readFields? : List (String × Presence × Shape) → Assoc String Json → Option (List (String × Json))
  | [], _ => some []
  | (k, p, s) :: rest, given => do
    let value ← p.read? s.zero (s.read? ·) (given.get? k)
    let members ← readFields? rest given
    some (Json.member? k value ++ members)

end

/-- A record that is read from objects only. -/
def object (fields : List (String × Presence × Shape)) : Shape :=
  .record false fields

/-- A field that may be absent. -/
def opt (k : String) (s : Shape) : String × Presence × Shape :=
  (k, .optional, s)

/-- A field that is always written. -/
def req (k : String) (s : Shape) : String × Presence × Shape :=
  (k, .filled, s)

/-- A field that says what the record is, and need not be given. -/
def tag (k v : String) : String × Presence × Shape :=
  (k, .defaulted, .exactly v)

/-- A record with more fields. -/
def adding : Shape → List (String × Presence × Shape) → Shape
  | .record strict fields, more => .record strict (fields ++ more)
  | s, _ => s

end Shape

end AccessGate
