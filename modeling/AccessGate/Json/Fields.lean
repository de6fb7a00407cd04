/-
Lenient reading of documents: a member that is missing or of another type reads as if it were empty.
-/
import AccessGate.Json.Basic

namespace AccessGate.Json

def asText (j : Json) : String :=
  j.asString?.getD ""

def asItems (j : Json) : List Json :=
  j.asList?.getD []

def asMembers (j : Json) : Assoc String Json :=
  j.asFields?.getD []

def field (j : Json) (k : String) : Json :=
  (j.get? k).getD .null

def textAt? (j : Json) (k : String) : Option String :=
  (j.field k).asString?

def textAt (j : Json) (k : String) : String :=
  (j.field k).asText

def flagAt? (j : Json) (k : String) : Option Bool :=
  (j.field k).asBool?

def flagAt (j : Json) (k : String) : Bool :=
  (j.flagAt? k).getD false

def itemsAt (j : Json) (k : String) : List Json :=
  (j.field k).asItems

def textsAt (j : Json) (k : String) : List String :=
  (j.itemsAt k).map asText

def natAt? (j : Json) (k : String) : Option Nat :=
  match j.field k with
  | .int i => if i < 0 then none else some i.toNat
  | _ => none

def natAt (j : Json) (k : String) : Nat :=
  (j.natAt? k).getD 0

/-- The n-th item of a list. -/
def nth (j : Json) (n : Nat) : Json :=
  (j.asItems[n]?).getD .null

def nthText (j : Json) (n : Nat) : String :=
  (j.nth n).asText

/-- A text that may be absent. -/
def ofText? (s : Option String) : Json :=
  (s.map .str).getD .null

/-- An object with more members. -/
def adding (j : Json) (more : List (String × Json)) : Json :=
  object (j.asMembers ++ more)

end AccessGate.Json
