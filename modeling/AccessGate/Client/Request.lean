/-
The typed operations that callers ask for. Each has a verb, a sub-resource and a key, which are what
is decided on, and an effect on the cluster, which does not know of callers.
-/
import AccessGate.Client.Stream
import AccessGate.Cluster.Action
import AccessGate.Kind.Basic
import AccessGate.ObjectKey
import AccessGate.Verb

namespace AccessGate.Client

open Cluster (Action Store Target Selection Patch Fresh Listing)

/-- An operation on objects of one kind. Objects are given as typed documents; an operation on a
sub-resource names it first. -/
inductive Request where
  | get (key : ObjectKey)
  | list (ns : String) (sel : Selection)
  | create (typed : Json)
  | update (typed : Json)
  | patch (key : ObjectKey) (p : Patch)
  | delete (key : ObjectKey)
  | deleteAll (ns : String) (sel : Selection)
  | watch (ns : String) (sel : Selection) (resourceVersion : String)
  | getSub (sub : String) (key : ObjectKey)
  | createSub (sub : String) (typed body : Json)
  | updateSub (sub : String) (typed : Json)
  | patchSub (sub : String) (key : ObjectKey) (p : Patch)
deriving DecidableEq, Repr

/-- What an operation gives. -/
inductive Product where
  | object (typed : Json)
  | listing (items : Listing Json)
  | done
  | stream (s : Stream)
  | document (j : Json)

namespace Request

def verb : Request → Verb
  | get _ | getSub .. => .get
  | list .. => .list
  | create _ | createSub .. => .create
  | update _ | updateSub .. => .update
  | patch .. | patchSub .. => .patch
  | delete _ => .delete
  | deleteAll .. => .deletecollection
  | watch .. => .watch

/-- The sub-resource; empty for the object itself. -/
def subresource : Request → String
  | getSub sub _ | createSub sub _ _ | updateSub sub _ | patchSub sub _ _ => sub
  | _ => ""

/-- The key that is decided on. A collection has no name; an object that is given has its own key. -/
def key : Request → ObjectKey
  | get key | patch key _ | delete key | getSub _ key | patchSub _ key _ => key
  | list ns _ | deleteAll ns _ | watch ns _ _ => .ofNamespace ns
  | create typed | update typed | createSub _ typed _ | updateSub _ typed => Kind.keyOf typed

/-- Whether the operation is resolved by the type of lists. -/
def isList : Request → Bool
  | list .. => true
  | _ => false

/-! ## Effects -/

/-- What the cluster is asked to do, if the object that is given, if any, can be written as the
cluster's. -/
def action? : Request → Option Action
  | get key => some (.get key.name)
  | list _ sel => some (.list sel)
  | create typed => (Kind.toObject? typed).map .create
  | update typed => (Kind.toObject? typed).map (.replace (Kind.keyOf typed).name)
  | patch key p => some (.patch key.name p)
  | delete key => some (.delete key.name)
  | deleteAll _ sel => some (.deleteCollection sel)
  | watch _ sel rv => some (.watch sel rv)
  | getSub sub key => some (.getSub sub key.name)
  | createSub sub typed body => some (.createSub sub (Kind.keyOf typed).name body)
  | updateSub sub typed => (Kind.toObject? typed).map (.replaceSub sub (Kind.keyOf typed).name)
  | patchSub sub key p => some (.patchSub sub key.name p)

/-- A cluster's object as a typed document. -/
def typed (k : Kind) (o : Cluster.Object) : Except AccessError Json :=
  match k.ofObject? o with
  | some j => .ok j
  | none => .error .conversion

/-- What the cluster gives, read as typed objects. -/
def typedProduct (k : Kind) : Cluster.Product → Except AccessError Product
  | .object o => (typed k o).map .object
  | .listing l => (l.items.mapM (typed k)).map fun items =>
      .listing ⟨l.resourceVersion, l.continueToken, items⟩
  | .done => .ok .done
  | .stream w => .ok (.stream ⟨k, w, false⟩)
  | .document j => .ok (.document j)

/-- What an operation does to a cluster, and what it gives. When what the cluster gives cannot be read,
the cluster stays as it became. -/
def run (k : Kind) (fresh : Fresh) (s : Store) (t : Target) (q : Request) :
    Except AccessError Product × Store :=
  match q.action? with
  | none => (.error .conversion, s)
  | some a =>
    match s.perform fresh t a with
    | (.error e, s) => (.error (.cluster e), s)
    | (.ok p, s) => (typedProduct k p, s)

end Request

end AccessGate.Client
