/-
What an API server's answers to operations hold. A refusal fails the operation, and so does an answer
that is not what was asked for; the answer to a watch has one event a line, each read on its own, and a
refusal is a line like others there.
-/
import AccessGate.Api.Calls
import AccessGate.Cluster.Object.Text

namespace AccessGate.Api

open Cluster (Action Bookmark Error Listing Metadata Object TypeNames WatchItem)
open Json (Draft Fault)

/-- What an answer gives. -/
inductive Product where
  | object (o : Object)
  | listing (l : Listing Object)
  | done
  | document (j : Json)
  | events (items : List (Except Error (WatchItem Object)))
deriving Repr

def orExchange {α : Type} (x : Option α) : Except Error α :=
  match x with
  | some a => .ok a
  | none => .error .exchange

/-! ## Listings and deletions -/

/-- The metadata of a listing. -/
def listMetadataShape : Shape :=
  .object [Shape.opt "continue" .text, Shape.opt "remainingItemCount" (.integer 64),
    Shape.opt "resourceVersion" .text, Shape.opt "selfLink" .text]

/-- The items of a listing, which may be null: there are none then. -/
def itemsOf : Nat → Draft → Except Fault (List Object)
  | _, .scalar v _ => do
    let j ← v
    if j.isNull then .ok [] else .error .unfit
  | depth + 1, .list ds _ => ds.mapM (Object.ofDraft depth)
  | _, _ => .error .unfit

/-- What is read of a listing: metadata and items, neither twice, and nothing but values besides. -/
def listingMembers (depth : Nat) : Option Json → Option (List Object) → List (Draft × Draft) →
    Except Fault (Option Json × Option (List Object))
  | metadata, items, [] => .ok (metadata, items)
  | metadata, items, (k, d) :: rest => do
    match ← k.text with
    | "metadata" =>
      if metadata.isSome then .error .unfit
      else do
        let j ← listMetadataShape.ofDraft depth d
        listingMembers depth (some j) items rest
    | "items" =>
      if items.isSome then .error .unfit
      else do
        let os ← itemsOf depth d
        listingMembers depth metadata (some os) rest
    | _ => do
      let _ ← d.value depth
      listingMembers depth metadata items rest

/-- A listing, which has items. -/
def listingOf : Nat → Draft → Except Fault (Listing Object)
  | _, .scalar (.error f) _ => .error f
  | depth + 1, .object members _ => do
    let (metadata, items) ← listingMembers depth none none members
    let textAt (k : String) := (metadata.bind (·.get? k)).bind Json.asString?
    let items ← Shape.orUnfit items
    .ok ⟨textAt "resourceVersion", textAt "continue", items⟩
  | _, _ => .error .unfit

def causeShape : Shape :=
  .record true [("reason", .defaulted, .text), ("message", .defaulted, .text), ("field", .defaulted, .text)]

def detailsShape : Shape :=
  .record true [("name", .defaulted, .text), ("group", .defaulted, .text), ("kind", .defaulted, .text),
    ("uid", .defaulted, .text), ("causes", .defaulted, .list causeShape),
    ("retryAfterSeconds", .defaulted, .natural 32)]

def operationStatusShape : Shape :=
  .record true [("status", .optional, .anything), ("code", .defaulted, .natural 16),
    ("message", .defaulted, .text), ("reason", .defaulted, .text), ("details", .optional, detailsShape)]

/-- Reads the status of an operation, of which nothing is kept. -/
def operationStatus (depth : Nat) (d : Draft) : Except Fault Unit := do
  let j ← operationStatusShape.ofDraft depth d
  match j.get? "status" with
  | none => .ok ()
  | some s => if s.choice?.any fun c => c = "Success" || c = "Failure" then .ok () else .error .unfit

/-- Reads the answer to a deletion, of which nothing is kept: a status, or what was deleted. All of it has
to be a document first. -/
def deletionOf {α : Type} (whole : Nat → Draft → Except Fault α) (depth : Nat) (d : Draft) : Except Fault Unit := do
  let j ← d.value depth
  if j.get? "kind" = some (.str "Status") then operationStatus depth d
  else do
    let _ ← whole depth d
    .ok ()

/-! ## Watches -/

def markShape : Shape :=
  .record true [("resourceVersion", .mandatory, .text), ("annotations", .defaulted, .dict .text)]

/-- A progress mark, which names its type and its resource version. -/
def bookmarkOf : Nat → Draft → Except Fault Bookmark
  | _, .scalar (.error f) _ => .error f
  | depth + 1, .object members _ => do
    let (mark, others) ← Cluster.splitMember "metadata" (markShape.ofDraft depth) depth none [] members
    let types ← Shape.orUnfit (TypeNames.take none none others).1
    let mark ← Shape.orUnfit mark
    .ok ⟨types, ((mark.get? "resourceVersion").bind Json.asString?).getD "",
      ((mark.get? "annotations").map Metadata.labelsOf).getD []⟩
  | _, _ => .error .unfit

/-- What an event is about, given its type. -/
def itemOf (type : String) (depth : Nat) (d : Draft) : Except Fault (WatchItem Object) :=
  match type with
  | "ADDED" => (Object.ofDraft depth d).map (.change .added)
  | "MODIFIED" => (Object.ofDraft depth d).map (.change .modified)
  | "DELETED" => (Object.ofDraft depth d).map (.change .deleted)
  | "BOOKMARK" => (bookmarkOf depth d).map .bookmark
  | "ERROR" => (refusalOf depth d).map .error
  | _ => .error .unfit

/-- The type of an event. -/
def typeOf (depth : Nat) (d : Draft) : Except Fault String := do
  let j ← d.value depth
  let t ← Shape.orUnfit j.choice?
  if ["ADDED", "MODIFIED", "DELETED", "BOOKMARK", "ERROR"].contains t then .ok t else .error .unfit

/-- Passes over members, which may not be those of an event. -/
def passOthers : List (Draft × Draft) → Except Fault Unit
  | [] => .ok ()
  | (k, d) :: rest => do
    let k ← k.text
    if k = "type" ∨ k = "object" then .error .unfit
    else do
      d.passed
      passOthers rest

/-- The event that members make up. What comes before its type has to be a value whatever the type. -/
def eventOfMembers (depth : Nat) (type : Option String) (o : Option Draft) :
    List (Draft × Draft) → Except Fault (WatchItem Object)
  | [] => .error .unfit
  | (k, d) :: rest => do
    match ← k.text, type, o with
    | "type", none, o => do
      let t ← typeOf depth d
      match o with
      | none => eventOfMembers depth (some t) none rest
      | some o => do
        let item ← itemOf t depth o
        passOthers rest
        .ok item
    | "object", some t, none => do
      let item ← itemOf t depth d
      passOthers rest
      .ok item
    | "object", none, none => do
      let _ ← d.value depth
      eventOfMembers depth none (some d) rest
    | "type", _, _ | "object", _, _ => .error .unfit
    | _, _, _ => do
      d.passed
      eventOfMembers depth type o rest

/-- An event, or the list of its type and what it is about. -/
def eventOf : Nat → Draft → Except Fault (WatchItem Object)
  | _, .scalar (.error f) _ => .error f
  | depth + 1, .object members _ => eventOfMembers depth none none members
  | depth + 1, .list (t :: ds) _ => do
    let t ← typeOf depth t
    match ds with
    | [] => .error .unfit
    | d :: rest => do
      let item ← itemOf t depth d
      match rest with
      | [] => .ok item
      | d :: _ => do
        d.passed
        .error .unfit
  | _, _ => .error .unfit

/-- What one line of a watch gives; a line that is cut off gives nothing. -/
def lineEvent? (line : String) : Option (Except Error (WatchItem Object)) :=
  match Json.readText (eventOf Json.maxDepth) line with
  | .ok i => some (.ok i)
  | .error .cutOff => none
  | .error .unfit =>
    match Json.readText (refusalOf Json.maxDepth) line with
    | .ok e => some (.error (.api e))
    | .error _ => some (.error .exchange)

def eventsOf (body : String) : List (Except Error (WatchItem Object)) :=
  (Text.splitOn '\n' body).filterMap lineEvent?

/-! ## Answers -/

def objectAnswer (r : Response) : Except Error Product :=
  (orExchange (r.read? Object.ofDraft)).map .object

def deletionAnswer {α : Type} (whole : Nat → Draft → Except Fault α) (r : Response) : Except Error Product :=
  (orExchange (r.read? (deletionOf whole))).map fun _ => .done

/-- What an answer that is no refusal gives. -/
def acceptedAnswer (a : Action) (r : Response) : Except Error Product :=
  match a with
  | .list _ => (orExchange (r.read? listingOf)).map .listing
  | .delete _ => deletionAnswer Object.ofDraft r
  | .deleteCollection _ => deletionAnswer listingOf r
  | .watch .. => .ok (.events (eventsOf r.body))
  | .createSub .. => (orExchange r.document?).map .document
  | _ => objectAnswer r

/-- Whether an operation reads its answer line by line, whatever the status: a refusal is one of the
lines then. -/
def readsLines : Action → Bool
  | .watch .. => true
  | _ => false

/-- What the answer to an operation gives. -/
def answerTo (a : Action) (r : Response) : Except Error Product :=
  match if readsLines a then none else r.refusal? with
  | some e => .error (.api e)
  | none => acceptedAnswer a r

end AccessGate.Api
