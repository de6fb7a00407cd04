/-
Objects of a cluster, whatever their type: the type's names, the metadata that every object has, and
all other members as they are. These are always members, as in every object that is read from a document;
an object put together by hand whose data are null, to which no status can be given, is left out.
-/
import AccessGate.Kind.Shape

namespace AccessGate.Cluster

/-- The names of an object's type. -/
structure TypeNames where
  apiVersion : String
  kind : String
deriving DecidableEq, Repr

/-- Takes the names of the type off the members of an object. They are taken one by one until one is no text
or is there again; then the object has no names, and what follows stays with it. -/
def TypeNames.take (apiVersion kind : Option String) :
    List (String × Json) → Option TypeNames × List (String × Json)
  | [] =>
    match apiVersion, kind with
    | some a, some k => (some ⟨a, k⟩, [])
    | _, _ => (none, [])
  | (key, j) :: rest =>
    match key with
    | "apiVersion" =>
      match apiVersion, j with
      | none, .str s => take (some s) kind rest
      | _, _ => (none, rest)
    | "kind" =>
      match kind, j with
      | none, .str s => take apiVersion (some s) rest
      | _, _ => (none, rest)
    | _ =>
      let (types, others) := take apiVersion kind rest
      (types, (key, j) :: others)

/-- What every object has. The members that the cluster itself never looks at are in `others`. -/
structure Metadata where
  name : Option String := none
  ns : Option String := none
  generateName : Option String := none
  uid : Option String := none
  resourceVersion : Option String := none
  labels : Option (Assoc String String) := none
  others : Assoc String Json := []
deriving DecidableEq, Repr

namespace Metadata

open Shape (opt req)

/-- An entry about who manages which fields. -/
def managedFieldsShape : Shape :=
  .object [opt "apiVersion" .text, opt "fieldsType" .text, opt "fieldsV1" .anything,
    opt "manager" .text, opt "operation" .text, opt "subresource" .text, opt "time" .time]

/-- A reference to an owner. -/
def ownerReferenceShape : Shape :=
  .object [req "apiVersion" .text, opt "blockOwnerDeletion" .flag, opt "controller" .flag,
    req "kind" .text, req "name" .text, req "uid" .text]

/-- The members of metadata. -/
def memberShapes : List (String × Presence × Shape) :=
  [opt "annotations" (.dict .text), opt "creationTimestamp" .time,
    opt "deletionGracePeriodSeconds" (.integer 64), opt "deletionTimestamp" .time,
    opt "finalizers" (.list .text), opt "generateName" .text, opt "generation" (.integer 64),
    opt "labels" (.dict .text), opt "managedFields" (.list managedFieldsShape), opt "name" .text,
    opt "namespace" .text, opt "ownerReferences" (.list ownerReferenceShape),
    opt "resourceVersion" .text, opt "selfLink" .text, opt "uid" .text]

def shape : Shape :=
  .object memberShapes

/-- The members that have a field of their own. -/
def ownMembers : List String :=
  ["name", "namespace", "generateName", "uid", "resourceVersion", "labels"]

/-- Text labels of a document of that shape. -/
def labelsOf (j : Json) : Assoc String String :=
  (j.asFields?.getD []).map fun f => (f.1, (f.2.asString?).getD "")

/-- The metadata that a document of that shape is. -/
def ofShaped (j : Json) : Metadata :=
  let textOf (k : String) : Option String := (j.get? k).bind Json.asString?
  { name := textOf "name"
    ns := textOf "namespace"
    generateName := textOf "generateName"
    uid := textOf "uid"
    resourceVersion := textOf "resourceVersion"
    labels := (j.get? "labels").map labelsOf
    others := (j.asFields?.getD []).filter fun f => !ownMembers.contains f.1 }

/-- Reads metadata; unknown members are dropped. -/
def ofJson? (j : Json) : Option Metadata :=
  (shape.read? j).map ofShaped

def toJson (m : Metadata) : Json :=
  .object (m.others
    ++ Json.member? "name" (m.name.map .str)
    ++ Json.member? "namespace" (m.ns.map .str)
    ++ Json.member? "generateName" (m.generateName.map .str)
    ++ Json.member? "uid" (m.uid.map .str)
    ++ Json.member? "resourceVersion" (m.resourceVersion.map .str)
    ++ Json.member? "labels" (m.labels.map fun ls => .obj (ls.mapValues .str)))

end Metadata

/-- An object of any type. -/
structure Object where
  types : Option TypeNames := none
  metadata : Metadata := {}
  data : Assoc String Json := []
deriving DecidableEq, Repr

namespace Object

/-- Reads an object. The names of the type are kept only if both are there. -/
def ofJson? (j : Json) : Option Object := do
  let fields ← j.asFields?
  let metadata ← match fields.get? "metadata" with
    | none => some {}
    | some m => Metadata.ofJson? m
  let (types, data) := TypeNames.take none none (fields.erase "metadata")
  some { types, metadata, data }

def typeMembers (types : Option TypeNames) : List (String × Json) :=
  match types with
  | none => []
  | some t => [("apiVersion", .str t.apiVersion), ("kind", .str t.kind)]

def toJson (o : Object) : Json :=
  .object (typeMembers o.types ++ [("metadata", o.metadata.toJson)] ++ o.data)

/-- The part of an object that only writes of the status change. -/
def status (o : Object) : Option Json :=
  o.data.get? "status"

/-- The object with the given status, or without one. -/
def withStatus (o : Object) (s : Option Json) : Object :=
  match s with
  | some s => { o with data := o.data.insert "status" s }
  | none => { o with data := o.data.erase "status" }

def labels (o : Object) : Assoc String String :=
  o.metadata.labels.getD []

end Object

end AccessGate.Cluster
