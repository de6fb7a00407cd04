/-
Cluster operations as documents: how they are asked for, and how what they give is written.
-/
import AccessGate.Cluster.Action
import AccessGate.Descriptor.Plural
import AccessGate.Json.Fields

namespace AccessGate.Cluster

/-! ## What is asked for -/

/-- A resource type. Its plural name may be left to the rules. -/
def ApiResource.ofJson (j : Json) : ApiResource :=
  let kind := j.textAt "kind"
  ⟨j.textAt "group", j.textAt "version", kind, (j.textAt? "plural").getD (Descriptor.plural kind)⟩

def Selection.ofJson (j : Json) : Selection :=
  ⟨j.textAt? "labels", j.textAt? "fields", j.natAt? "limit", j.textAt? "continue"⟩

def PatchKind.ofName : String → PatchKind
  | "strategic" => .strategic
  | "apply" => .apply
  | _ => .merge

def Patch.ofJson (j : Json) : Patch :=
  ⟨.ofName (j.textAt "type"), j.field "patch"⟩

/-- The object of an operation; an empty one if there is none, nothing if it cannot be read. -/
def objectOf? (j : Json) : Option Object :=
  match j.get? "obj" with
  | none => some {}
  | some o => Object.ofJson? o

/-- The operation that a document asks for by its name, with the object that was read from it. -/
def Action.ofJson? (j : Json) (o : Object) : Option Action :=
  let name := j.textAt "name"
  let sub := j.textAt "sub"
  match j.textAt "do" with
  | "get" => some (.get name)
  | "list" => some (.list (.ofJson j))
  | "create" => some (.create o)
  | "replace" => some (.replace name o)
  | "patch" => some (.patch name (.ofJson j))
  | "delete" => some (.delete name)
  | "delete_collection" => some (.deleteCollection (.ofJson j))
  | "watch" => some (.watch (.ofJson j) (j.textAt "rv"))
  | "get_sub" => some (.getSub sub name)
  | "create_sub" => some (.createSub sub name (j.field "body"))
  | "replace_sub" => some (.replaceSub sub name o)
  | "patch_sub" => some (.patchSub sub name (.ofJson j))
  | _ => none

/-! ## What is given -/

/-- The name of a kind of failure. -/
def Error.kind : Error → String
  | notFound .. => "NotFound"
  | alreadyExists .. => "AlreadyExists"
  | invalid _ => "Invalid"
  | unsupported _ => "Unsupported"
  | api _ => "Kube.Api"
  | badRequest _ => "Kube.BuildRequest"
  | exchange => "Kube"
  | serialization => "Serialization"

/-- A failure; what stands before the name of its kind says where it comes from. -/
def Error.toJson (e : Error) (origin : String) : Json :=
  .object ([("error", .str (origin ++ e.kind)), ("code", .str e.code.name), ("not_found", .bool e.isNotFound)]
    ++ Json.member? "message" (e.message?.map .str))

def Change.name : Change → String
  | added => "ADDED"
  | modified => "MODIFIED"
  | deleted => "DELETED"

def Bookmark.toJson (b : Bookmark) : Json :=
  .object [("apiVersion", .str b.types.apiVersion), ("kind", .str b.types.kind),
    ("metadata", .object [("resourceVersion", .str b.resourceVersion),
      ("annotations", .obj (b.annotations.mapValues .str))])]

def WatchItem.toJson {α : Type} (f : α → Json) (i : WatchItem α) : Json :=
  let event (type : String) (o : Json) : Json := .object [("type", .str type), ("object", o)]
  match i with
  | .change c o => event c.name (f o)
  | .bookmark b => event "BOOKMARK" b.toJson
  | .error e => event "ERROR" e.toJson

/-- The type of an item with the name of its object, or else with its message. -/
def WatchItem.summary (i : WatchItem Object) : String :=
  match i with
  | .change c o => c.name ++ " " ++ o.metadata.name.getD (o.toJson.textAt "message")
  | .bookmark _ => "BOOKMARK "
  | .error e => "ERROR " ++ e.message

/-- The names of an object's namespace and of itself. -/
def Object.place (o : Object) : String :=
  o.metadata.ns.getD "" ++ "/" ++ o.metadata.name.getD ""

/-- A listing with its items under a given key. -/
def Listing.toJson {α : Type} (key : String) (f : α → Json) (l : Listing α) : Json :=
  .object [("resource_version", .ofText? l.resourceVersion), ("continue", .ofText? l.continueToken),
    (key, .arr (l.items.map f))]

end AccessGate.Cluster
