/-
What an operation on a cluster is aimed at: a resource type, and a namespace or none. For one object no
namespace means that it lives outside namespaces; for a collection it means all namespaces.
-/
import AccessGate.Assoc

namespace AccessGate.Cluster

/-- A resource type as a cluster serves it. -/
structure ApiResource where
  group : String
  version : String
  kind : String
  plural : String
deriving DecidableEq, Repr

/-- The version with its group, as objects name it. -/
def ApiResource.apiVersion (r : ApiResource) : String :=
  if r.group = "" then r.version else r.group ++ "/" ++ r.version

/-- A resource type and a namespace; the empty text is none. -/
structure Target where
  resource : ApiResource
  ns : String
deriving DecidableEq, Repr

/-- The target of an optional namespace. -/
def Target.of (r : ApiResource) (ns : Option String) : Target :=
  ⟨r, ns.getD ""⟩

/-- The place of an object in a cluster. The version of its type does not matter. -/
structure Place where
  group : String
  plural : String
  ns : String
  name : String
deriving DecidableEq, Repr

instance : Ord Place where
  compare := compareLex (compareOn Place.group) (compareLex (compareOn Place.plural)
    (compareLex (compareOn Place.ns) (compareOn Place.name)))

namespace Target

/-- The place of the object of a given name. -/
def place (t : Target) (name : String) : Place :=
  ⟨t.resource.group, t.resource.plural, t.ns, name⟩

/-- Whether a place belongs to the collection aimed at. -/
def covers (t : Target) (p : Place) : Bool :=
  p.group = t.resource.group && p.plural = t.resource.plural && (t.ns = "" || p.ns = t.ns)

end Target

end AccessGate.Cluster
