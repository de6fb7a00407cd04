/-
Merge patches. An object patches member by member, null removing a member; any other patch replaces
what it is applied to.
-/
import AccessGate.Cluster.Error
import AccessGate.Cluster.Object

namespace AccessGate

namespace Json

mutual

/-- The document after a merge patch. -/
def mergePatch (target : Json) : Json → Json
  | .obj changes => .obj (mergeMembers (target.asFields?.getD []) changes)
  | patch => patch

/-- The members of an object after the changes of a merge patch, taken in order. -/
def mergeMembers (target : Assoc String Json) : List (String × Json) → Assoc String Json
  | [] => target
  | (k, .null) :: rest => mergeMembers (target.erase k) rest
  | (k, v) :: rest => mergeMembers (target.insert k (mergePatch ((target.get? k).getD .null) v)) rest

end

end Json

namespace Cluster

/-- The kinds of patches that clients send. -/
inductive PatchKind where
  | merge
  | strategic
  | apply
deriving DecidableEq, Repr

/-- A patch: how it is meant, and its content. -/
structure Patch where
  kind : PatchKind
  content : Json
deriving DecidableEq, Repr

namespace Patch

/-- The content, taken as a merge patch; a strategic patch is taken for one too. -/
def mergeContent (p : Patch) : Except Error Json :=
  match p.kind with
  | .merge | .strategic => .ok p.content
  | .apply => .error (.unsupported "only merge and strategic merge patches are supported")

/-- The content without the status. -/
def withoutStatus : Json → Json
  | .obj fields => .obj (Assoc.erase fields "status")
  | j => j

/-- Of the content, only the status. -/
def onlyStatus (j : Json) : Json :=
  match j.get? "status" with
  | some s => .obj [("status", s)]
  | none => .obj []

end Patch

/-- The object after a merge patch, if what comes out is an object again. -/
def Object.mergePatch (o : Object) (content : Json) : Except Error Object :=
  match Object.ofJson? (o.toJson.mergePatch content) with
  | some o => .ok o
  | none => .error .serialization

end Cluster

end AccessGate
