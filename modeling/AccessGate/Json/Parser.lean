/-
Reading a document from text. Containers nest at most 127 deep; the last of equal keys counts.
-/
import AccessGate.Json.Draft

namespace AccessGate.Json

/-- How deep containers may nest. -/
def maxDepth : Nat := 127

/-- The document that the whole text is, blanks around it aside. -/
def parse? (s : String) : Option Json :=
  (readText (Draft.value maxDepth) s).toOption

end AccessGate.Json
