/-
What a normal form grants. `Granted` says it from the rules alone: the verbs that the rules which cover a
type and name list, or what the wildcard stands for if it is among them. Main statement: the normal form
of rules has exactly the entries that this calls for (`build_grants_as_listed`).
-/
import AccessGate.Proofs.Rules.Gathering

namespace AccessGate.Rules

/-! ## What is granted -/

/-- Whether the wildcard stands for a verb on a type. -/
def ResourceType.Expands (t : ResourceType) (o : Options) (v : String) : Prop :=
  v ∈ baseVerbs ∨ o.customVerbsInExpansion = true ∧ v ∈ t.customVerbs

/-- Whether rules grant a verb on a name of a type: it is listed, or, where the wildcard is listed, that
stands for it. -/
def Granted (o : Options) (rules : List PolicyRule) (t : ResourceType) (n v : String) : Prop :=
  Listed rules t n wildcardVerb ∧ t.Expands o v ∨ ¬ Listed rules t n wildcardVerb ∧ Listed rules t n v

/-- The normal rule of a type, a name and verbs. -/
def normalRule (t : ResourceType) (n : String) (verbs : List String) : PolicyRule :=
  { apiGroups := some [t.group]
    resources := some [t.plural]
    resourceNames := if n = "" then none else some [n]
    verbs }

/-- Whether normal rules have an entry for a type and name with a verb. -/
def NormalRules.Gives (m : NormalRules) (t : ResourceType) (n v : String) : Prop :=
  ∃ verbs, (ruleKey t.group t.plural n, normalRule t n verbs) ∈ m ∧ v ∈ verbs

/-- A rule without the parts that the normal form does not look at. -/
def PolicyRule.targetsOnly (r : PolicyRule) : PolicyRule :=
  { r with apiGroups := none, nonResourceURLs := none }

/-! ## Verbs of a normal rule -/

theorem mem_expandWildcard {t : ResourceType} {o : Options} {v : String} :
    v ∈ t.expandWildcard o.customVerbsInExpansion ↔ t.Expands o v := by
  unfold ResourceType.expandWildcard ResourceType.Expands
  rw [mem_addVerbs, List.mem_append]
  by_cases hc : o.customVerbsInExpansion = true <;> simp [hc, Assoc.keys]

theorem mem_finalVerbs {o : Options} {x : Gathered} {v : String} : v ∈ x.finalVerbs o ↔
    wildcardVerb ∈ x.verbs.keys ∧ x.resource.Expands o v ∨ wildcardVerb ∉ x.verbs.keys ∧ v ∈ x.verbs.keys := by
  unfold Gathered.finalVerbs
  by_cases hw : x.verbs.has wildcardVerb = true
  · rw [if_pos hw, mem_expandWildcard]
    rw [Assoc.has_iff] at hw
    simp [hw]
  · rw [if_neg hw]
    rw [Assoc.has_iff] at hw
    simp [hw]

theorem ascending_keys {set : Verbs} (h : Assoc.Ascending set) : set.keys.Pairwise fun v w => compare v w = .lt :=
  List.pairwise_map.2 h

theorem ascending_finalVerbs (o : Options) {x : Gathered} (h : Assoc.Ascending x.verbs) :
    (x.finalVerbs o).Pairwise fun v w => compare v w = .lt := by
  unfold Gathered.finalVerbs
  split
  · exact ascending_keys (ascending_addVerbs _ List.Pairwise.nil)
  · exact ascending_keys h

theorem plainVerb_of_expands {t : ResourceType} (ht : t ∈ resourceTypes) {o : Options} {v : String}
    (h : t.Expands o v) : PlainVerb v ∧ v ≠ wildcardVerb := by
  have base : ∀ v ∈ baseVerbs, (v ≠ "" ∧ Text.toLower (Text.trim v) = v) ∧ v ≠ wildcardVerb := by decide +kernel
  have custom : ∀ t ∈ resourceTypes, ∀ v ∈ t.customVerbs,
      (v ≠ "" ∧ Text.toLower (Text.trim v) = v) ∧ v ≠ wildcardVerb := by decide +kernel
  obtain ⟨⟨hne, hplain⟩, hw⟩ := h.elim (base v) fun h => custom t ht v h.2
  exact ⟨⟨hne, hplain⟩, hw⟩

theorem plainVerb_of_mem_finalVerbs {o : Options} {x : Gathered} {key v : String} (hx : x.FiledAt key)
    (h : v ∈ x.finalVerbs o) : PlainVerb v ∧ v ≠ wildcardVerb := by
  rcases mem_finalVerbs.1 h with ⟨-, h⟩ | ⟨hw, h⟩
  · exact plainVerb_of_expands hx.resource h
  · exact ⟨hx.plain v h, fun he => hw (he ▸ h)⟩

/-! ## Normal forms -/

/-- Whether a rule under a key is the normal one of a type and a name. -/
structure NormalAt (t : ResourceType) (n key : String) (r : PolicyRule) : Prop where
  resource : t ∈ resourceTypes
  name : Text.trim n = n
  key : key = ruleKey t.group t.plural n
  rule : r = normalRule t n r.verbs
  nonempty : r.verbs ≠ []
  ascending : r.verbs.Pairwise fun v w => compare v w = .lt
  plain : ∀ v ∈ r.verbs, PlainVerb v ∧ v ≠ wildcardVerb

/-- Whether rules under keys are a normal form. -/
structure NormalRules.Normal (m : NormalRules) : Prop where
  ascending : Assoc.Ascending m
  entry : ∀ key r, (key, r) ∈ m → ∃ t n, NormalAt t n key r

theorem finish?_eq_some {o : Options} {x : Gathered} {r : PolicyRule} : x.finish? o = some r ↔
    x.finalVerbs o ≠ [] ∧ r = normalRule x.resource x.name (x.finalVerbs o) := by
  unfold Gathered.finish?
  split
  · rename_i h
    simp [h]
  · rename_i h
    rw [Option.some.injEq]
    exact ⟨fun he => ⟨h, he.symm⟩, fun he => he.2.symm⟩

theorem mem_finish {o : Options} {g : Gathering} {key : String} {r : PolicyRule} : (key, r) ∈ finish o g ↔
    ∃ x, (key, x) ∈ g ∧ x.finalVerbs o ≠ [] ∧ r = normalRule x.resource x.name (x.finalVerbs o) := by
  unfold finish
  rw [List.mem_filterMap]
  constructor
  · rintro ⟨⟨k, x⟩, hx, h⟩
    obtain ⟨r', hr', he⟩ := Option.map_eq_some_iff.1 h
    cases he
    exact ⟨x, hx, finish?_eq_some.1 hr'⟩
  · rintro ⟨x, hx, h⟩
    exact ⟨(key, x), hx, Option.map_eq_some_iff.2 ⟨r, finish?_eq_some.2 h, rfl⟩⟩

theorem ascending_finish (o : Options) {g : Gathering} (h : Assoc.Ascending g) : Assoc.Ascending (finish o g) := by
  refine List.Pairwise.filterMap _ (fun a a' hlt b hb b' hb' => ?_) h
  obtain ⟨_, -, rfl⟩ := Option.map_eq_some_iff.1 hb
  obtain ⟨_, -, rfl⟩ := Option.map_eq_some_iff.1 hb'
  exact hlt

theorem Filed.normal {g : Gathering} (h : Filed g) (o : Options) : NormalRules.Normal (finish o g) := by
  refine ⟨ascending_finish o h.ascending, fun key r hr => ?_⟩
  obtain ⟨x, hx, hne, rfl⟩ := mem_finish.1 hr
  have hfiled := h.filed key x hx
  exact ⟨x.resource, x.name, hfiled.resource, hfiled.name, hfiled.key, rfl, hne,
    ascending_finalVerbs o hfiled.ascending, fun v hv => plainVerb_of_mem_finalVerbs hfiled hv⟩

/-- What a finished gathering gives is what it holds under the key, or what the wildcard there stands for. -/
theorem Filed.gives_iff {g : Gathering} (h : Filed g) (o : Options) {t : ResourceType} (ht : t ∈ resourceTypes)
    (n v : String) : NormalRules.Gives (finish o g) t n v ↔
      wildcardVerb ∈ (verbsAt g (ruleKey t.group t.plural n)).keys ∧ t.Expands o v ∨
      wildcardVerb ∉ (verbsAt g (ruleKey t.group t.plural n)).keys ∧
        v ∈ (verbsAt g (ruleKey t.group t.plural n)).keys := by
  constructor
  · rintro ⟨verbs, hm, hv⟩
    obtain ⟨x, hx, -, hr⟩ := mem_finish.1 hm
    have hfiled := h.filed _ x hx
    obtain ⟨rfl, rfl⟩ := ruleKey_inj ht hfiled.resource hfiled.key
    rw [verbsAt_of_get? (h.ascending.get?_of_mem hx)]
    rw [show verbs = x.finalVerbs o from congrArg PolicyRule.verbs hr] at hv
    exact mem_finalVerbs.1 hv
  · intro hv
    cases hg : g.get? (ruleKey t.group t.plural n) with
    | none =>
      simp [verbsAt, hg, Assoc.keys] at hv
    | some x =>
      have hx := Assoc.mem_of_get? hg
      have hfiled := h.filed _ x hx
      obtain ⟨rfl, rfl⟩ := ruleKey_inj ht hfiled.resource hfiled.key
      rw [verbsAt_of_get? hg, ← mem_finalVerbs] at hv
      exact ⟨_, mem_finish.2 ⟨x, hx, List.ne_nil_of_mem hv, rfl⟩, hv⟩

/-! ## Building and merging -/

variable {o : Options} {rules : List PolicyRule} {m : NormalRules}

theorem build_eq (o : Options) (rules : List PolicyRule) : build o rules = (gather [] rules).map (finish o) := rfl

/-- Merging is building from the normal rules and the new ones. -/
theorem merge_eq_build (o : Options) (m : NormalRules) (rules : List PolicyRule) :
    merge o m rules = build o (m.values ++ rules) := by
  rw [build_eq, gather_append, merge]
  cases gather [] m.values <;> rfl

theorem build_eq_ok (h : build o rules = .ok m) : ∃ g, gather [] rules = .ok g ∧ m = finish o g := by
  rw [build_eq] at h
  cases hg : gather [] rules with
  | error e => rw [hg] at h; cases h
  | ok g => rw [hg] at h; cases h; exact ⟨g, rfl, rfl⟩

theorem build_ok_iff : (∃ m, build o rules = .ok m) ↔ ∀ r ∈ rules, r.Valid := by
  rw [← contributions_ok_iff, build_eq, gather_eq]
  cases contributions rules with
  | error e => exact ⟨fun ⟨_, h⟩ => (nomatch h), fun ⟨_, h⟩ => (nomatch h)⟩
  | ok cs => exact ⟨fun _ => ⟨cs, rfl⟩, fun _ => ⟨_, rfl⟩⟩

theorem normal_build (h : build o rules = .ok m) : m.Normal := by
  obtain ⟨g, hg, rfl⟩ := build_eq_ok h
  exact (filed_nil.gather hg).normal o

theorem gives_build (h : build o rules = .ok m) {t : ResourceType} (ht : t ∈ resourceTypes) (n v : String) :
    m.Gives t n v ↔ Granted o rules t n v := by
  obtain ⟨g, hg, rfl⟩ := build_eq_ok h
  rw [(filed_nil.gather hg).gives_iff o ht]
  have hlisted : ∀ v, v ∈ (verbsAt g (ruleKey t.group t.plural n)).keys ↔ Listed rules t n v := fun v => by
    rw [mem_verbsAt_gather hg ht]
    exact ⟨fun h => h.resolve_left fun h => (nomatch h), .inr⟩
  rw [hlisted, hlisted]
  rfl

theorem PolicyRule.contributions_targetsOnly (r : PolicyRule) : r.targetsOnly.contributions = r.contributions := by
  have hnames : r.targetsOnly.plainNames = r.plainNames := rfl
  have htargets : r.targetsOnly.targetNames = r.targetNames := rfl
  have hverbs : r.targetsOnly.plainVerbs = r.plainVerbs := rfl
  have hfor : r.targetsOnly.contributionsFor = r.contributionsFor := by
    funext resource
    rw [contributionsFor, contributionsFor, hnames, htargets, hverbs]
  rw [contributions, contributions, hfor]
  rfl

theorem build_targetsOnly (o : Options) (rules : List PolicyRule) :
    build o (rules.map PolicyRule.targetsOnly) = build o rules := by
  have hrule : PolicyRule.contributions ∘ PolicyRule.targetsOnly = PolicyRule.contributions :=
    funext PolicyRule.contributions_targetsOnly
  have hsame : contributions (rules.map PolicyRule.targetsOnly) = contributions rules := by
    rw [contributions, List.mapM_map, hrule, contributions]
  rw [build_eq, build_eq, gather_eq, gather_eq, hsame]

/-- A rule without fault that covers all instances names none. -/
theorem PolicyRule.Valid.names_eq_nil {r : PolicyRule} (h : r.Valid) {t : ResourceType} (hc : r.Covers t "") :
    r.resourceNames.getD [] = [] := by
  obtain ⟨⟨resource, hres, -⟩, ⟨name, hname, hblank⟩ | ⟨-, hnil⟩⟩ := hc
  · exact absurd hblank ((h resource hres).2 name hname)
  · exact hnil

/-- The normal form of rules grants exactly what they say: an entry for a type and a name has a verb if and
only if the rules that cover them grant it, there are no other entries and one for each key, what is granted
on all instances comes from rules that name none, and the other parts of the rules do not matter. -/
theorem build_grants_as_listed (h : build o rules = .ok m) :
    (∀ t ∈ resourceTypes, ∀ n v, m.Gives t n v ↔ Granted o rules t n v) ∧
    (∀ key r, (key, r) ∈ m → ∃ t ∈ resourceTypes, ∃ n, key = ruleKey t.group t.plural n ∧
      r = normalRule t n r.verbs ∧ r.verbs ≠ [] ∧ ∀ v ∈ r.verbs, Granted o rules t n v) ∧
    Assoc.Ascending m ∧
    (∀ t, ∀ r ∈ rules, r.Covers t "" → r.resourceNames.getD [] = []) ∧
    ∀ rules', rules'.map PolicyRule.targetsOnly = rules.map PolicyRule.targetsOnly → build o rules' = .ok m := by
  have hnormal := normal_build h
  refine ⟨fun t ht n v => gives_build h ht n v, fun key r hr => ?_, hnormal.ascending, fun t r hr hc => ?_,
    fun rules' hrules => ?_⟩
  · obtain ⟨t, n, hat⟩ := hnormal.entry key r hr
    refine ⟨t, hat.resource, n, hat.key, hat.rule, hat.nonempty, fun v hv => ?_⟩
    refine (gives_build h hat.resource n v).1 ⟨r.verbs, ?_, hv⟩
    rw [← hat.key, ← hat.rule]
    exact hr
  · exact (build_ok_iff.1 ⟨m, h⟩ r hr).names_eq_nil hc
  · rw [← build_targetsOnly, hrules, build_targetsOnly, h]

/-- The type that has a verb of its own. -/
def stages : ResourceType :=
  ⟨"stages", "stage", pipelineGroup, ["promote"]⟩

/-- Rules with a wildcard on all stages, and with one verb on one stage. -/
def stageRules : List PolicyRule :=
  [ { apiGroups := some ["example.com"], resources := some [" Stages "], verbs := ["get", "*"] },
    { resources := some ["stages"], resourceNames := some [" prod "], verbs := [" PROMOTE ", ""] } ]

/-- The wildcard does not stand for the type's own verb, which only the one stage has. -/
theorem stageRules_grant :
    let m : NormalRules := [(ruleKey pipelineGroup "stages" "", normalRule stages "" baseVerbs),
      (ruleKey pipelineGroup "stages" "prod", normalRule stages "prod" ["promote"])]
    build {} stageRules = .ok m ∧ Granted {} stageRules stages "prod" "promote" ∧
      ¬ Granted {} stageRules stages "" "promote" := by
  intro m
  have h : build {} stageRules = .ok m := rfl
  have hgives := (build_grants_as_listed h).1 stages (by decide)
  refine ⟨h, (hgives "prod" "promote").1 ⟨["promote"], by decide, by decide⟩, fun hg => ?_⟩
  obtain ⟨verbs, hm, hv⟩ := (hgives "" "promote").2 hg
  have hverbs : verbs = baseVerbs := by
    have := (normal_build h).ascending.get?_of_mem hm
    exact congrArg PolicyRule.verbs (Option.some.inj this).symm
  rw [hverbs] at hv
  exact absurd hv (by decide)

end AccessGate.Rules
