/-
The namespace and name of the object that an operation is about. Operations on a collection have no
name, and objects outside namespaces have no namespace.
-/
namespace AccessGate

/-- Where an operation is aimed. -/
structure ObjectKey where
  ns : String := ""
  name : String := ""
deriving DecidableEq, Repr

namespace ObjectKey

/-- A key for a collection. -/
def ofNamespace (ns : String) : ObjectKey := ⟨ns, ""⟩

/-- A key outside namespaces. -/
def ofName (name : String) : ObjectKey := ⟨"", name⟩

/-- The namespace, if there is one. -/
def scope? (k : ObjectKey) : Option String :=
  if k.ns = "" then none else some k.ns

def text (k : ObjectKey) : String :=
  if k.ns = "" then k.name else if k.name = "" then k.ns else k.ns ++ "/" ++ k.name

end ObjectKey

end AccessGate
