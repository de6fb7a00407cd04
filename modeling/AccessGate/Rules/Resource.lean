/-
The resource types that a project role may name. A rule does not choose its API group: the group
belongs to the type. What the wildcard verb stands for depends on the type as well.
-/
import AccessGate.Error.Code
import AccessGate.Text.Quoted

namespace AccessGate.Rules

/-- A resource type that rules may name. -/
structure ResourceType where
  /-- The name that rules use. -/
  plural : String
  /-- The other name, known only to point to the right one. -/
  singular : String
  group : String
  /-- Verbs that this type has beyond those of every type. -/
  customVerbs : List String
deriving DecidableEq, Repr

/-- Why rules cannot be normalized. -/
inductive RuleError where
  | singularResource (resource : String) (suggestion : String)
  | unknownResource (resource : String)
  | blankName (resource : String)
deriving DecidableEq, Repr

namespace RuleError

def message : RuleError → String
  | singularResource r s =>
    "unrecognized resource type " ++ Text.quoted r ++ "; did you mean " ++ Text.quoted s ++ "?"
  | unknownResource r => "unrecognized resource type " ++ Text.quoted r
  | blankName r => "empty resource name in rule for " ++ Text.quoted r

def suggestion : RuleError → Option String
  | singularResource _ s => some s
  | unknownResource _ => none
  | blankName _ => none

def code (_ : RuleError) : ErrorCode :=
  .invalidArgument

end RuleError

def coreGroup : String := ""

def rbacGroup : String := "rbac.authorization.k8s.io"

def rolloutsGroup : String := "argoproj.io"

def pipelineGroup : String := "kargo.akuity.io"

/-- The verb that stands for every operation on a type. -/
def wildcardVerb : String := "*"

/-- The verbs of every type, in ascending order. -/
def baseVerbs : List String :=
  ["create", "delete", "deletecollection", "get", "list", "patch", "update", "watch"]

/-- Every resource type that a rule may name. -/
def resourceTypes : List ResourceType :=
  [ ⟨"configmaps", "configmap", coreGroup, []⟩,
    ⟨"events", "event", coreGroup, []⟩,
    ⟨"namespaces", "namespace", coreGroup, []⟩,
    ⟨"secrets", "secret", coreGroup, []⟩,
    ⟨"serviceaccounts", "serviceaccount", coreGroup, []⟩,
    ⟨"rolebindings", "rolebinding", rbacGroup, []⟩,
    ⟨"roles", "role", rbacGroup, []⟩,
    ⟨"analysisruns", "analysisrun", rolloutsGroup, []⟩,
    ⟨"analysistemplates", "analysistemplate", rolloutsGroup, []⟩,
    ⟨"freights", "freight", pipelineGroup, []⟩,
    ⟨"projectconfigs", "projectconfig", pipelineGroup, []⟩,
    ⟨"projects", "project", pipelineGroup, []⟩,
    ⟨"promotions", "promotion", pipelineGroup, []⟩,
    ⟨"promotiontasks", "promotiontask", pipelineGroup, []⟩,
    ⟨"stages", "stage", pipelineGroup, ["promote"]⟩,
    ⟨"warehouses", "warehouse", pipelineGroup, []⟩ ]

/-- The type of a plural name. A singular name is refused with the plural as a suggestion. -/
def lookup (name : String) : Except RuleError ResourceType :=
  match resourceTypes.find? fun t => t.plural == name with
  | some t => .ok t
  | none =>
    match resourceTypes.find? fun t => t.singular == name with
    | some t => .error (.singularResource name t.plural)
    | none => .error (.unknownResource name)

/-- A set of verbs, in ascending order. -/
abbrev Verbs := Assoc String Unit

/-- The set with the given verbs added. -/
def addVerbs (set : Verbs) (verbs : List String) : Verbs :=
  verbs.foldl (fun s v => s.insert v ()) set

/-- The verbs that the wildcard stands for on a type, in ascending order. -/
def ResourceType.expandWildcard (t : ResourceType) (custom : Bool) : List String :=
  (addVerbs [] (baseVerbs ++ if custom then t.customVerbs else [])).keys

end AccessGate.Rules
