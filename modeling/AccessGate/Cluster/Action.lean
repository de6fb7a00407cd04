/-
The operations on a cluster as data, so that one can speak of all of them, and of sequences of them.
-/
import AccessGate.Cluster.Watch

namespace AccessGate.Cluster

/-- An operation on the objects of one resource type. -/
inductive Action where
  | get (name : String)
  | list (sel : Selection)
  | create (o : Object)
  | replace (name : String) (o : Object)
  | patch (name : String) (p : Patch)
  | delete (name : String)
  | deleteCollection (sel : Selection)
  | watch (sel : Selection) (resourceVersion : String)
  | getSub (sub name : String)
  | createSub (sub name : String) (body : Json)
  | replaceSub (sub name : String) (o : Object)
  | patchSub (sub name : String) (p : Patch)
deriving DecidableEq, Repr

/-- What an operation gives. -/
inductive Product where
  | object (o : Object)
  | listing (l : Listing Object)
  | done
  | stream (w : Watch)
  | document (j : Json)
deriving Repr

/-- Wraps what one operation gives. -/
def produce {α : Type} (f : α → Product) (r : Except Error α × Store) : Except Error Product × Store :=
  (r.1.map f, r.2)

/-- Performs an operation in memory. -/
def Store.perform (s : Store) (fresh : Fresh) (t : Target) : Action → Except Error Product × Store
  | .get name => produce .object (s.get t name)
  | .list sel => produce .listing (s.list t sel)
  | .create o => produce .object (s.create fresh t o)
  | .replace name o => produce .object (s.replace t name o)
  | .patch name p => produce .object (s.patch t name p)
  | .delete name => produce (fun _ => .done) (s.delete t name)
  | .deleteCollection sel => produce (fun _ => .done) (s.deleteCollection t sel)
  | .watch sel rv => produce .stream (s.watch t sel rv)
  | .getSub sub name => produce .object (s.getSubresource t sub name)
  | .createSub sub _ _ => produce .document (s.createSubresource t sub)
  | .replaceSub sub name o => produce .object (s.replaceSubresource t sub name o)
  | .patchSub sub name p => produce .object (s.patchSubresource t sub name p)

end AccessGate.Cluster
