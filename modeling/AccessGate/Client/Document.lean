/-
Requests of callers as documents: how they are asked for, and how what they come to is written.
-/
import AccessGate.Client.Basic
import AccessGate.Decision.Document

namespace AccessGate.Client

/-- The request that a document asks for by its name, with the typed object that was read from it. -/
def Request.ofJson? (j typed : Json) : Option Request :=
  let key : ObjectKey := ⟨j.textAt "namespace", j.textAt "name"⟩
  let sub := j.textAt "sub"
  match j.textAt "do" with
  | "get" => some (.get key)
  | "create" => some (.create typed)
  | "update" => some (.update typed)
  | "patch" => some (.patch key (.ofJson j))
  | "delete" => some (.delete key)
  | "list" => some (.list key.ns (.ofJson j))
  | "delete_all" => some (.deleteAll key.ns (.ofJson j))
  | "watch" => some (.watch key.ns (.ofJson j) (j.textAt "rv"))
  | "sub_get" => some (.getSub (if j.flagAt "status_ctor" then "status" else sub) key)
  | "sub_create" => some (.createSub sub typed (j.field "body"))
  | "sub_update" => some (.updateSub sub typed)
  | "sub_patch" => some (.patchSub sub key (.ofJson j))
  | _ => none

/-- The requests that need an object. -/
def needsObject (name : String) : Bool :=
  ["create", "update", "sub_create", "sub_update"].contains name

def okJson (j : Json) : Json :=
  .object [("ok", j)]

def Product.toJson : Product → Json
  | .object j | .document j => okJson j
  | .listing l => l.toJson "items" id
  | .done | .stream _ => okJson .null

def Outcome.toJson : Outcome → Json
  | .ok p => p.toJson
  | .error e => e.toJson
  | .pending => pendingJson

def itemJson : Except AccessError (Cluster.WatchItem Json) → Json
  | .ok i => i.toJson id
  | .error e => e.toJson

end AccessGate.Client
