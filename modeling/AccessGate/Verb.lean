/-
Verbs of operations, as reviews name them: trimmed and in lower case.
-/
import AccessGate.Text.Blank
import AccessGate.Text.Case

namespace AccessGate

/-- The verb of an operation. -/
structure Verb where
  name : String
deriving DecidableEq, Repr

namespace Verb

def create : Verb := ⟨"create"⟩

def delete : Verb := ⟨"delete"⟩

def deletecollection : Verb := ⟨"deletecollection"⟩

def get : Verb := ⟨"get"⟩

def list : Verb := ⟨"list"⟩

def patch : Verb := ⟨"patch"⟩

def update : Verb := ⟨"update"⟩

def watch : Verb := ⟨"watch"⟩

/-- The verbs of the operations that the client has. -/
def standard : List Verb :=
  [create, delete, deletecollection, get, list, patch, update, watch]

/-- The verb of a given name. -/
def ofName (s : String) : Verb :=
  ⟨Text.toLower (Text.trim s)⟩

end Verb

end AccessGate
