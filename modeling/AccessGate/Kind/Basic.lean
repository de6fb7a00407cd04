/-
Kinds of typed objects. A typed object is held as the document that it is written as. Kinds of the
cluster itself name their type in documents and refuse another name there; a kind that does not name
its type passes such members over.
-/
import AccessGate.Cluster.Object
import AccessGate.ObjectKey

namespace AccessGate

/-- A kind of typed objects. -/
structure Kind where
  group : String
  version : String
  kind : String
  /-- Whether documents carry the names of the type. -/
  named : Bool
  shape : Shape

namespace Kind

def apiVersion (k : Kind) : String :=
  if k.group = "" then k.version else k.group ++ "/" ++ k.version

/-- What the documents of a kind look like. -/
def documentShape (k : Kind) : Shape :=
  if k.named then k.shape.adding [Shape.tag "apiVersion" k.apiVersion, Shape.tag "kind" k.kind] else k.shape

/-- The typed object that a document stands for, as the document that it is written as. -/
def read? (k : Kind) (j : Json) : Option Json :=
  k.documentShape.read? j

/-- The metadata of a typed object. -/
def metadataOf (typed : Json) : Cluster.Metadata :=
  ((typed.get? "metadata").bind Cluster.Metadata.ofJson?).getD {}

/-- The key of a typed object. -/
def keyOf (typed : Json) : ObjectKey :=
  let m := metadataOf typed
  ⟨m.ns.getD "", m.name.getD ""⟩

/-- The cluster's object for a typed object. -/
def toObject? (typed : Json) : Option Cluster.Object :=
  Cluster.Object.ofJson? typed

/-- The typed object for a cluster's object; one without the names of a type is taken to be of this
kind. -/
def ofObject? (k : Kind) (o : Cluster.Object) : Option Json :=
  k.read? { o with types := o.types.or (some ⟨k.apiVersion, k.kind⟩) }.toJson

end Kind

end AccessGate
