/-
What a gate is set up with.
-/
import AccessGate.Json.Record

namespace AccessGate

/-- What a gate is set up with. -/
structure ClientOptions where
  /-- Whether every operation is allowed unchecked. -/
  skipAuthorization : Bool := false
  /-- Namespaces whose accounts are tried for every caller, in order, none twice. -/
  globalNamespaces : List String := []
deriving DecidableEq, Repr

namespace ClientOptions

/-- The names in order, each kept where it comes first. -/
def addName (names : List String) (ns : String) : List String :=
  if names.contains ns then names else names ++ [ns]

def withSkipAuthorization (o : ClientOptions) (skip : Bool) : ClientOptions :=
  { o with skipAuthorization := skip }

def withGlobalNamespace (o : ClientOptions) (ns : String) : ClientOptions :=
  { o with globalNamespaces := addName o.globalNamespaces ns }

/-- Reads options; what is absent is off or empty. -/
def ofJson? (j : Json) : Option ClientOptions := do
  let fields ← j.record? ["skipAuthorization", "globalServiceAccountNamespaces"]
  let skip ← Json.withDefault Json.asBool? false fields "skipAuthorization"
  let names ← Json.withDefault Json.asStrings? [] fields "globalServiceAccountNamespaces"
  some ⟨skip, names.foldl addName []⟩

def toJson (o : ClientOptions) : Json :=
  .object [("skipAuthorization", .bool o.skipAuthorization),
    ("globalServiceAccountNamespaces", .strings o.globalNamespaces)]

end ClientOptions

end AccessGate
