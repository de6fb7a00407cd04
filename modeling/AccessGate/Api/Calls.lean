/-
Operations on a cluster as requests to its API server. A request that cannot be made fails before
anything is sent.
-/
import AccessGate.Api.Exchange
import AccessGate.Api.Url
import AccessGate.Cluster.Action
import AccessGate.Json.Fields

namespace AccessGate.Api

open Cluster (Action ApiResource Object Patch PatchKind Selection)

/-- What an operation asks for besides. -/
structure CallOptions where
  dryRun : Bool := false
  fieldManager : Option String := none
  force : Bool := false
  /-- How many seconds an object has before it is deleted. -/
  grace : Option Nat := none
  /-- How many seconds a watch may last. -/
  timeout : Option Nat := none
deriving DecidableEq, Repr

def CallOptions.ofJson (j : Json) : CallOptions :=
  ⟨j.flagAt "dry_run", j.textAt? "field_manager", j.flagAt "force", j.natAt? "grace", j.natAt? "timeout"⟩

/-- The path of a collection. -/
def collectionPath (r : ApiResource) (ns : Option String) : String :=
  (if r.group = "" then "/api/" else "/apis/") ++ r.apiVersion
    ++ (match ns.getD "" with
      | "" => ""
      | ns => "/namespaces/" ++ ns)
    ++ "/" ++ r.plural

/-! ## What is checked -/

def refused (message : String) : Cluster.Error :=
  .badRequest ("Failed to build request: failed to validate request: " ++ message)

/-- Without a name a request for one object would be one for all. -/
def checkNamed (name : String) : Except Cluster.Error Unit :=
  if name = "" then .error (refused "A non-empty name is required") else .ok ()

def checkManager (options : String) (o : CallOptions) : Except Cluster.Error Unit :=
  if 128 < (o.fieldManager.getD "").utf8ByteSize then
    .error (refused ("Failed to validate " ++ options ++ "::field_manager!"))
  else .ok ()

def checkForce (o : CallOptions) (p : Patch) : Except Cluster.Error Unit :=
  if o.force && p.kind ≠ .apply then .error (refused "PatchParams::force only works with Patch::Apply") else .ok ()

def checkTimeout (o : CallOptions) : Except Cluster.Error Unit :=
  if 295 ≤ o.timeout.getD 0 then .error (refused "WatchParams::timeout must be < 295s") else .ok ()

/-! ## Parts of queries -/

def part? (k : String) (v : Option String) : List (String × String) :=
  (v.map fun v => (k, v)).toList

def selectorParts (s : Selection) : List (String × String) :=
  part? "fieldSelector" s.fields ++ part? "labelSelector" s.labels

def listParts (s : Selection) : List (String × String) :=
  selectorParts s ++ part? "limit" (s.limit.map toString) ++ part? "continue" s.continueToken

def watchParts (o : CallOptions) (s : Selection) (resourceVersion : String) : List (String × String) :=
  [("watch", "true"), ("timeoutSeconds", toString (o.timeout.getD 290))] ++ selectorParts s
    ++ [("allowWatchBookmarks", "true"), ("resourceVersion", resourceVersion)]

def dryRunPart (o : CallOptions) : List (String × String) :=
  if o.dryRun then [("dryRun", "All")] else []

def writeParts (o : CallOptions) : List (String × String) :=
  dryRunPart o ++ part? "fieldManager" o.fieldManager

def patchParts (o : CallOptions) : List (String × String) :=
  dryRunPart o ++ (if o.force then [("force", "true")] else []) ++ part? "fieldManager" o.fieldManager

/-! ## Requests -/

def patchType : PatchKind → String
  | .merge => "application/merge-patch+json"
  | .strategic => "application/strategic-merge-patch+json"
  | .apply => "application/apply-patch+yaml"

def jsonType : String := "application/json"

/-- What a deletion says. -/
def deleteBody (o : CallOptions) : Json :=
  .object (Json.member? "gracePeriodSeconds" (o.grace.map fun n => .int n)
    ++ if o.dryRun then [("dryRun", .strings ["All"])] else [])

/-- A request for a target, if the target is valid. -/
def build (method : String) (contentType : Option String) (target : String) (body : Option Json) :
    Except Cluster.Error Request :=
  match checkTarget target with
  | .ok uri => .ok { method, uri, contentType, body }
  | .error e => .error (.badRequest ("Failed to build request: failed to build request: " ++ e.message))

/-- The request for an operation. -/
def requestFor (r : ApiResource) (ns : Option String) (o : CallOptions) (a : Action) :
    Except Cluster.Error Request :=
  let path := collectionPath r ns
  let named (name : String) := path ++ "/" ++ name
  let sub (name sub : String) := named name ++ "/" ++ sub
  match a with
  | .get name => do
    checkNamed name
    build "GET" none (named name) none
  | .list s => build "GET" none (withQuery path (listParts s)) none
  | .create obj => do
    checkManager "PostParams" o
    build "POST" jsonType (withQuery path (writeParts o)) obj.toJson
  | .replace name obj => do
    checkNamed name
    build "PUT" jsonType (withQuery (named name) (writeParts o)) obj.toJson
  | .patch name p => do
    checkNamed name
    checkManager "PatchParams" o
    checkForce o p
    build "PATCH" (patchType p.kind) (withQuery (named name) (patchParts o)) p.content
  | .delete name => do
    checkNamed name
    build "DELETE" jsonType (withQuery (named name) []) (deleteBody o)
  | .deleteCollection s =>
    build "DELETE" jsonType (withQuery path (selectorParts s))
      (if deleteBody o = .obj [] then none else some (deleteBody o))
  | .watch s rv => do
    checkTimeout o
    build "GET" none (withQuery path (watchParts o s rv)) none
  | .getSub s name => do
    checkNamed name
    build "GET" none (sub name s) none
  | .createSub s name body => build "POST" jsonType (withQuery (sub name s) (writeParts o)) body
  | .replaceSub s name obj => do
    checkNamed name
    build "PUT" jsonType (withQuery (sub name s) (writeParts o)) obj.toJson
  | .patchSub s name p => do
    checkNamed name
    checkManager "PatchParams" o
    checkForce o p
    build "PATCH" (patchType p.kind) (withQuery (sub name s) (patchParts o)) p.content

end AccessGate.Api
