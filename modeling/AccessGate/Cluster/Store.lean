/-
A cluster held in memory. Each write takes the next resource version, stores one object under its
place and publishes one event; an operation that fails does none of these. The status of an object is
a part of its own that writes of the object leave alone. Operations other than seeding are logged,
failed ones too.
-/
import AccessGate.Cluster.Patch
import AccessGate.Cluster.Selector
import AccessGate.Cluster.Target

namespace AccessGate.Cluster

/-- What happened to an object. -/
inductive Change where
  | added
  | modified
  | deleted
deriving DecidableEq, Repr

/-- A published change: the place, and the object as it is after the change or was before it was
deleted. -/
structure Event where
  change : Change
  place : Place
  object : Object
deriving DecidableEq, Repr

/-- A cluster held in memory. -/
structure Store where
  objects : Assoc Place Object := []
  /-- The resource version of the last write. -/
  version : Nat := 0
  /-- Everything that was published, oldest first. -/
  events : List Event := []
  /-- The latest operations, oldest first. -/
  log : List String := []
  logCapacity : Nat := 1024
deriving Repr

/-- The chance values that one creation may use: an identifier, and an ending for a generated name. -/
structure Fresh where
  uid : String
  suffix : String
deriving DecidableEq, Repr

/-- What listing a collection gives. -/
structure Listing (α : Type) where
  resourceVersion : Option String
  continueToken : Option String
  items : List α
deriving Repr

namespace Store

/-- A cluster whose log keeps the given number of operations. -/
def withLogCapacity (n : Nat) : Store :=
  { logCapacity := n }

/-- The cluster with an operation logged; the oldest make room. -/
def logged (s : Store) (entry : String) : Store :=
  if s.logCapacity = 0 then s
  else { s with log := s.log.drop (s.log.length + 1 - s.logCapacity) ++ [entry] }

/-- The text of an operation in the log. -/
def logEntry (verb : String) (t : Target) (subresource : Option String) : String :=
  verb ++ " " ++ t.resource.plural ++ (match subresource with
    | none => ""
    | some sub => "/" ++ sub)

/-- Stores an object under a place and publishes the change. -/
def write (s : Store) (c : Change) (p : Place) (o : Object) : Store :=
  { s with
    objects := s.objects.insert p o
    version := s.version + 1
    events := s.events ++ [⟨c, p, o⟩] }

/-- Removes an object and publishes that. -/
def remove (s : Store) (b : Place × Object) : Store :=
  { s with objects := s.objects.erase b.1, events := s.events ++ [⟨.deleted, b.1, b.2⟩] }

/-- The version of the next write, as objects carry it. -/
def nextVersion (s : Store) : String :=
  toString (s.version + 1)

/-- The objects of a collection that a selector picks, in the order of their places. -/
def select (s : Store) (t : Target) (sel : Selector) : Assoc Place Object :=
  s.objects.filter fun b => t.covers b.1 && sel.isMatch b.2

/-! ## Creating -/

/-- The name of a new object: its own, or one that is generated. -/
def newName (fresh : Fresh) (m : Metadata) : Except Error String :=
  match m.name.getD "", m.generateName.getD "" with
  | "", "" => .error (.invalid "metadata.name or metadata.generateName is required")
  | "", start => .ok (start ++ fresh.suffix)
  | name, _ => .ok name

/-- Whether the namespace of an object, if it has one, is that of the target, if it has one. -/
def checkNamespace (t : Target) (m : Metadata) : Except Error Unit :=
  match m.ns with
  | none => .ok ()
  | some ns =>
    if t.ns = "" ∨ ns = t.ns then .ok ()
    else
      .error (.invalid ("object namespace " ++ Text.quoted ns ++ " does not match request namespace "
        ++ Text.quoted t.ns))

/-- The namespace as metadata has it. -/
def namespaceField (ns : String) : Option String :=
  if ns = "" then none else some ns

/-- Adds an object that is not there yet. -/
def insertNew (s : Store) (fresh : Fresh) (t : Target) (o : Object) : Except Error Object × Store :=
  match newName fresh o.metadata with
  | .error e => (.error e, s)
  | .ok name =>
    match checkNamespace t o.metadata with
    | .error e => (.error e, s)
    | .ok () =>
      let p := t.place name
      if s.objects.has p then (.error (.alreadyExists p.plural name), s)
      else
        let stored := { o with
          metadata := { o.metadata with
            name := some name
            ns := namespaceField t.ns
            uid := some fresh.uid
            resourceVersion := some s.nextVersion } }
        (.ok stored, s.write .added p stored)

/-- Adds an object without an entry in the log; its own namespace is the target's. -/
def seed (s : Store) (fresh : Fresh) (r : ApiResource) (o : Object) : Except Error Object × Store :=
  s.insertNew fresh (.of r o.metadata.ns) o

/-! ## Changing -/

/-- Puts the result of an update in the place of an object. What identifies the object stays. -/
def modify (s : Store) (t : Target) (name : String) (update : Object → Except Error Object) :
    Except Error Object × Store :=
  let p := t.place name
  match s.objects.get? p with
  | none => (.error (.notFound p.plural name), s)
  | some old =>
    match update old with
    | .error e => (.error e, s)
    | .ok new =>
      let stored := { new with
        types := old.types.or new.types
        metadata := { new.metadata with
          name := old.metadata.name
          ns := old.metadata.ns
          uid := old.metadata.uid
          resourceVersion := some s.nextVersion } }
      (.ok stored, s.write .modified p stored)

/-- The only part of an object that can be written apart from it. -/
def checkStatus (subresource : String) : Except Error Unit :=
  if subresource = "status" then .ok ()
  else .error (.unsupported ("sub-resource " ++ Text.quoted subresource))

/-- Whether an object may be written under a name. -/
def checkName (name : String) (m : Metadata) : Except Error Unit :=
  match m.name with
  | none => .ok ()
  | some n =>
    if n = name then .ok ()
    else .error (.invalid ("object name does not match request name " ++ Text.quoted name))

/-! ## The operations -/

def find (s : Store) (t : Target) (name : String) : Except Error Object :=
  match s.objects.get? (t.place name) with
  | some o => .ok o
  | none => .error (.notFound t.resource.plural name)

def get (s : Store) (t : Target) (name : String) : Except Error Object × Store :=
  let s := s.logged (logEntry "get" t none)
  (s.find t name, s)

def list (s : Store) (t : Target) (sel : Selection) : Except Error (Listing Object) × Store :=
  let s := s.logged (logEntry "list" t none)
  (sel.selector.map fun sel => ⟨some (toString s.version), none, (s.select t sel).values⟩, s)

def create (s : Store) (fresh : Fresh) (t : Target) (o : Object) : Except Error Object × Store :=
  (s.logged (logEntry "create" t none)).insertNew fresh t o

/-- Replaces an object but for its status. -/
def replace (s : Store) (t : Target) (name : String) (o : Object) : Except Error Object × Store :=
  let s := s.logged (logEntry "update" t none)
  match checkName name o.metadata with
  | .error e => (.error e, s)
  | .ok () => s.modify t name fun old => .ok (o.withStatus old.status)

/-- Patches an object but for its status. -/
def patch (s : Store) (t : Target) (name : String) (p : Patch) : Except Error Object × Store :=
  let s := s.logged (logEntry "patch" t none)
  match p.mergeContent with
  | .error e => (.error e, s)
  | .ok content => s.modify t name fun old => old.mergePatch (Patch.withoutStatus content)

def delete (s : Store) (t : Target) (name : String) : Except Error Unit × Store :=
  let s := s.logged (logEntry "delete" t none)
  let p := t.place name
  match s.objects.get? p with
  | none => (.error (.notFound p.plural name), s)
  | some o => (.ok (), s.remove (p, o))

def deleteCollection (s : Store) (t : Target) (sel : Selection) : Except Error Unit × Store :=
  let s := s.logged (logEntry "deletecollection" t none)
  match sel.selector with
  | .error e => (.error e, s)
  | .ok sel => (.ok (), (s.select t sel).foldl remove s)

def getSubresource (s : Store) (t : Target) (sub name : String) : Except Error Object × Store :=
  let s := s.logged (logEntry "get" t (some sub))
  match checkStatus sub with
  | .error e => (.error e, s)
  | .ok () => (s.find t name, s)

/-- No sub-resource can be created. -/
def createSubresource (s : Store) (t : Target) (sub : String) : Except Error Json × Store :=
  (.error (.unsupported ("creating sub-resource " ++ Text.quoted sub)),
    s.logged (logEntry "create" t (some sub)))

/-- Replaces the status of an object and nothing else. -/
def replaceSubresource (s : Store) (t : Target) (sub name : String) (o : Object) :
    Except Error Object × Store :=
  let s := s.logged (logEntry "update" t (some sub))
  match checkStatus sub with
  | .error e => (.error e, s)
  | .ok () => s.modify t name fun old => .ok (old.withStatus o.status)

/-- Patches the status of an object and nothing else. -/
def patchSubresource (s : Store) (t : Target) (sub name : String) (p : Patch) :
    Except Error Object × Store :=
  let s := s.logged (logEntry "patch" t (some sub))
  match checkStatus sub with
  | .error e => (.error e, s)
  | .ok () =>
    match p.mergeContent with
    | .error e => (.error e, s)
    | .ok content => s.modify t name fun old => old.mergePatch (Patch.onlyStatus content)

end Store

end AccessGate.Cluster
