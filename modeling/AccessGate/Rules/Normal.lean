/-
The normal form of policy rules: one rule per resource type and instance name, filed under a key, with
its group looked up, its wildcard expanded and its verbs in ascending order. Rules for all instances
of a type have the empty name. Merging rules into a normal form starts again from the verbs that it
lists.
-/
import AccessGate.Rules.Policy
import AccessGate.Rules.Resource
import AccessGate.Text.Blank
import AccessGate.Text.Case

namespace AccessGate.Rules

/-- How rules are normalized. -/
structure Options where
  /-- Whether a wildcard also stands for the verbs that only its type has. -/
  customVerbsInExpansion : Bool := false
deriving DecidableEq, Repr

/-- The key of a rule: group, resource and, unless it is for all instances, name. -/
def ruleKey (group resource name : String) : String :=
  let group := if group = "" then "core" else group
  if name = "" then group ++ "/" ++ resource else group ++ "/" ++ resource ++ "/" ++ name

/-- The verbs gathered for one resource type and name. -/
structure Gathered where
  resource : ResourceType
  name : String
  verbs : Verbs
deriving DecidableEq, Repr

/-- What has been gathered, by rule key. -/
abbrev Gathering := Assoc String Gathered

/-- Normal rules by rule key. -/
abbrev NormalRules := Assoc String PolicyRule

namespace PolicyRule

/-- The verbs of a rule: trimmed, in lower case, blank ones dropped. -/
def plainVerbs (r : PolicyRule) : List String :=
  (r.verbs.map fun v => Text.toLower (Text.trim v)).filter fun v => v ≠ ""

/-- The instance names of a rule, trimmed. -/
def plainNames (r : PolicyRule) : List String :=
  (r.resourceNames.getD []).map Text.trim

end PolicyRule

/-- Adds verbs for one type and name. -/
def gatherTarget (t : ResourceType) (verbs : List String) (g : Gathering) (name : String) : Gathering :=
  let key := ruleKey t.group t.plural name
  let old := (g.get? key).getD ⟨t, name, []⟩
  g.insert key { old with verbs := addVerbs old.verbs verbs }

/-- Adds the verbs of a rule for one of the resources it lists. A name that is blank would be taken
for all instances, so it is refused. -/
def gatherResource (r : PolicyRule) (g : Gathering) (resource : String) : Except RuleError Gathering :=
  match lookup (Text.toLower (Text.trim resource)) with
  | .error e => .error e
  | .ok t =>
    if r.plainNames.any (· == "") then .error (.blankName t.plural)
    else .ok ((if r.plainNames.isEmpty then [""] else r.plainNames).foldl (gatherTarget t r.plainVerbs) g)

def gatherRule (g : Gathering) (r : PolicyRule) : Except RuleError Gathering :=
  (r.resources.getD []).foldlM (gatherResource r) g

/-- Gathers the verbs of rules, one after the other; the first fault ends it. -/
def gather (g : Gathering) (rules : List PolicyRule) : Except RuleError Gathering :=
  rules.foldlM gatherRule g

/-- The verbs of a normal rule: a wildcard among those gathered replaces them all. -/
def Gathered.finalVerbs (o : Options) (x : Gathered) : List String :=
  if x.verbs.has wildcardVerb then x.resource.expandWildcard o.customVerbsInExpansion else x.verbs.keys

/-- The normal rule of what was gathered under one key; there is none without verbs. -/
def Gathered.finish? (o : Options) (x : Gathered) : Option PolicyRule :=
  match x.finalVerbs o with
  | [] => none
  | verbs =>
    some
      { apiGroups := some [x.resource.group]
        resources := some [x.resource.plural]
        resourceNames := if x.name = "" then none else some [x.name]
        verbs }

def finish (o : Options) (g : Gathering) : NormalRules :=
  g.filterMap fun b => (b.2.finish? o).map fun r => (b.1, r)

/-- Merges rules into normal rules: the rules listed there are gathered again, then the new ones. -/
def merge (o : Options) (m : NormalRules) (rules : List PolicyRule) : Except RuleError NormalRules :=
  match gather [] m.values with
  | .error e => .error e
  | .ok g => (gather g rules).map (finish o)

/-- Merges rules into normal rules that are kept, which stay as they are if there is a fault. -/
def mergeInto (o : Options) (rules : List PolicyRule) : EStateM RuleError NormalRules Unit := do
  let kept ← get
  let merged ← MonadExcept.ofExcept (merge o kept rules)
  set merged

/-- The normal form of rules, by key. -/
def build (o : Options) (rules : List PolicyRule) : Except RuleError NormalRules :=
  merge o [] rules

/-- The normal form of rules, in the order of their keys. -/
def normalize (o : Options) (rules : List PolicyRule) : Except RuleError (List PolicyRule) :=
  (build o rules).map Assoc.values

end AccessGate.Rules
