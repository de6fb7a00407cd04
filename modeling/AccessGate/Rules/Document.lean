/-
Rules, normal rules and what is wrong with rules as documents.
-/
import AccessGate.Json.Fields
import AccessGate.Rules.Normal

namespace AccessGate.Rules

/-- The name of a kind of fault. -/
def RuleError.kind : RuleError → String
  | singularResource .. => "SingularResourceType"
  | unknownResource .. => "UnknownResourceType"
  | blankName .. => "BlankResourceName"

def RuleError.toJson (e : RuleError) : Json :=
  .object [("error", .str e.kind), ("message", .str e.message), ("suggestion", .ofText? e.suggestion),
    ("code", .str e.code.name)]

def rulesOf? (j : Json) : Option (List PolicyRule) :=
  j.asList?.bind fun xs => xs.mapM PolicyRule.ofJson?

/-- Rules under keys of any form, as lists of key and rule; of equal keys the last counts. -/
def NormalRules.ofJson? (j : Json) : Option NormalRules :=
  (j.asList?.bind fun xs => xs.mapM fun x =>
    match x with
    | .arr [.str k, r] => (PolicyRule.ofJson? r).map (k, ·)
    | _ => none).map Assoc.ofBindings

def NormalRules.toJson (m : NormalRules) : Json :=
  .arr (m.map fun b => .arr [.str b.1, b.2.toJson])

def ResourceType.toJson (t : ResourceType) : Json :=
  .object [("plural", .str t.plural), ("singular", .str t.singular), ("group", .str t.group),
    ("custom_verbs", .strings t.customVerbs), ("wildcard", .strings (t.expandWildcard false)),
    ("wildcard_custom", .strings (t.expandWildcard true))]

end AccessGate.Rules
