/-
Resource descriptors: the group, version, kind and plural name of the type that an operation touches,
and the sub-resource, if any.
-/
import AccessGate.Cluster.Target

namespace AccessGate

/-- The resource type that an operation touches. -/
structure Descriptor where
  group : String
  version : String
  kind : String
  /-- The plural name. -/
  resource : String
  /-- Empty for the resource itself. -/
  subresource : String := ""
deriving DecidableEq, Repr

namespace Descriptor

def withSubresource (d : Descriptor) (sub : String) : Descriptor :=
  { d with subresource := sub }

def apiResource (d : Descriptor) : Cluster.ApiResource :=
  ⟨d.group, d.version, d.kind, d.resource⟩

def text (d : Descriptor) : String :=
  d.resource ++ (if d.subresource = "" then "" else "/" ++ d.subresource)
    ++ (if d.group = "" then "" else "." ++ d.group)

end Descriptor

end AccessGate
