/-
Descriptors, keys and schemes as documents.
-/
import AccessGate.Descriptor.Scheme
import AccessGate.Json.Fields
import AccessGate.ObjectKey

namespace AccessGate

def Cluster.ApiResource.toJson (r : Cluster.ApiResource) : Json :=
  .object [("group", .str r.group), ("version", .str r.version), ("api_version", .str r.apiVersion),
    ("kind", .str r.kind), ("plural", .str r.plural)]

def Descriptor.toJson (d : Descriptor) : Json :=
  .object [("group", .str d.group), ("version", .str d.version), ("kind", .str d.kind),
    ("resource", .str d.resource), ("subresource", .str d.subresource), ("display", .str d.text),
    ("api_resource", d.apiResource.toJson)]

def ObjectKey.toJson (k : ObjectKey) : Json :=
  .object [("namespace", .str k.ns), ("name", .str k.name)]

def Registration.toJson (r : Registration) : Json :=
  .object [("group", .str r.group), ("version", .str r.version), ("kind", .str r.kind), ("list", .bool r.isList)]

def Registration.ofJson (j : Json) : Registration :=
  ⟨j.textAt "group", j.textAt "version", j.textAt "kind", j.flagAt "list"⟩

/-- Overrides as lists of group, kind and plural name. -/
def PluralOverrides.ofJson (j : Json) : PluralOverrides :=
  j.asItems.map fun o => ((o.nthText 0, o.nthText 1), o.nthText 2)

/-- The kind that a name stands for; pods, if it stands for none. -/
def Kind.ofName (name : String) : Kind :=
  ((Kind.stage :: Kind.clusterKinds).find? fun k => k.kind == name).getD Kind.pod

end AccessGate
