/-
Policy rules as documents hold them. An optional list that is absent is not the same as an empty one.
-/
import AccessGate.Json.Record

namespace AccessGate.Rules

/-- One rule of a role: these verbs on these resources, all of them or those named. -/
structure PolicyRule where
  apiGroups : Option (List String) := none
  nonResourceURLs : Option (List String) := none
  resourceNames : Option (List String) := none
  resources : Option (List String) := none
  verbs : List String := []
deriving DecidableEq, Repr

namespace PolicyRule

/-- Reads a rule from an object; what is null is absent, and other members are passed over. -/
def ofJson? (j : Json) : Option PolicyRule := do
  let fields ← j.asFields?
  let apiGroups ← Json.nullable Json.asStrings? fields "apiGroups"
  let nonResourceURLs ← Json.nullable Json.asStrings? fields "nonResourceURLs"
  let resourceNames ← Json.nullable Json.asStrings? fields "resourceNames"
  let resources ← Json.nullable Json.asStrings? fields "resources"
  let verbs ← Json.nullable Json.asStrings? fields "verbs"
  some { apiGroups, nonResourceURLs, resourceNames, resources, verbs := verbs.getD [] }

def toJson (r : PolicyRule) : Json :=
  .object (Json.member? "apiGroups" (r.apiGroups.map Json.strings)
    ++ Json.member? "nonResourceURLs" (r.nonResourceURLs.map Json.strings)
    ++ Json.member? "resourceNames" (r.resourceNames.map Json.strings)
    ++ Json.member? "resources" (r.resources.map Json.strings)
    ++ [("verbs", Json.strings r.verbs)])

end PolicyRule

end AccessGate.Rules
