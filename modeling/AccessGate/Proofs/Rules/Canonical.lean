/-
The form that normalizing and merging give to rules. `NormalAt` says which rule stands under a key; here the same is
said part by part, of what the rule and its key contain, as one would check it on a stored role
(`canonical_iff_normal`). Main statement: whatever is normalized, and whatever is merged into whatever, what comes out
is canonical (`normalized_canonical`); and every canonical form comes out (`canonical_iff_merged`).
-/
import AccessGate.Proofs.Rules.Merging

namespace AccessGate.Rules

/-! ## Verbs -/

theorem pairwise_lt_iff {l : List String} : l.Pairwise (· < ·) ↔ l.Pairwise fun v w => compare v w = .lt :=
  ⟨fun h => h.imp compare_eq_lt_iff.2, fun h => h.imp compare_eq_lt_iff.1⟩

/-- What stays as it is when it is trimmed and put in lower case is trimmed and is in lower case. -/
theorem plainVerb_iff {v : String} : PlainVerb v ↔ v ≠ "" ∧ Text.trim v = v ∧ Text.toLower v = v := by
  constructor
  · rintro ⟨hne, hplain⟩
    -- the verb is the lower case of a trimmed text, which has no white space at its ends either
    have htrim : Text.trim v = v := by
      have h := Text.trim_toLower_trim v
      rwa [hplain] at h
    exact ⟨hne, htrim, by rwa [htrim] at hplain⟩
  · rintro ⟨hne, htrim, hlower⟩
    exact ⟨hne, by rw [htrim, hlower]⟩

/-! ## Canonical forms -/

/-- Whether a rule under a key is in canonical form, as the rule of a type of the table and of a name, or of all
instances if the name is empty. -/
structure CanonicalAt (t : ResourceType) (n key : String) (r : PolicyRule) : Prop where
  apiGroups : r.apiGroups = some [t.group]
  resources : r.resources = some [t.plural]
  resourceNames : n = "" ∧ r.resourceNames = none ∨ n ≠ "" ∧ Text.trim n = n ∧ r.resourceNames = some [n]
  nonResourceURLs : r.nonResourceURLs = none
  nonempty : r.verbs ≠ []
  increasing : r.verbs.Pairwise (· < ·)
  noWildcard : wildcardVerb ∉ r.verbs
  plain : ∀ v ∈ r.verbs, v ≠ "" ∧ Text.trim v = v ∧ Text.toLower v = v
  key : key = ruleKey t.group t.plural n

/-- Whether rules under keys are in canonical form. -/
structure NormalRules.Canonical (m : NormalRules) : Prop where
  increasing : m.keys.Pairwise (· < ·)
  entry : ∀ key r, (key, r) ∈ m → ∃ t ∈ resourceTypes, ∃ n, CanonicalAt t n key r
  /-- Only one entry is for a name of a type. -/
  apart : ∀ t ∈ resourceTypes, ∀ n key r key' r', (key, r) ∈ m → (key', r') ∈ m → r.Covers t n → r'.Covers t n →
    key = key' ∧ r = r'

variable {t : ResourceType} {n key : String} {r : PolicyRule} {m : NormalRules}

theorem NormalAt.canonicalAt (h : NormalAt t n key r) : CanonicalAt t n key r where
  apiGroups := by rw [h.rule]; rfl
  resources := by rw [h.rule]; rfl
  resourceNames := by
    rw [h.rule]
    unfold normalRule
    by_cases hn : n = ""
    · exact .inl ⟨hn, if_pos hn⟩
    · exact .inr ⟨hn, h.name, if_neg hn⟩
  nonResourceURLs := by rw [h.rule]; rfl
  nonempty := h.nonempty
  increasing := pairwise_lt_iff.2 h.ascending
  noWildcard := fun hw => (h.plain _ hw).2 rfl
  plain := fun v hv => plainVerb_iff.1 (h.plain v hv).1
  key := h.key

/-- The parts of a canonical rule make up the normal one of its type, name and verbs. -/
theorem CanonicalAt.rule_eq (h : CanonicalAt t n key r) : r = normalRule t n r.verbs := by
  have hnames : r.resourceNames = if n = "" then none else some [n] := by
    rcases h.resourceNames with ⟨hn, hnames⟩ | ⟨hn, -, hnames⟩
    · rw [if_pos hn, hnames]
    · rw [if_neg hn, hnames]
  calc r = ⟨r.apiGroups, r.nonResourceURLs, r.resourceNames, r.resources, r.verbs⟩ := rfl
    _ = normalRule t n r.verbs := by
      rw [h.apiGroups, h.nonResourceURLs, hnames, h.resources]
      rfl

theorem CanonicalAt.normalAt (ht : t ∈ resourceTypes) (h : CanonicalAt t n key r) : NormalAt t n key r where
  resource := ht
  name := by
    rcases h.resourceNames with ⟨rfl, -⟩ | ⟨-, htrim, -⟩
    · decide
    · exact htrim
  key := h.key
  rule := h.rule_eq
  nonempty := h.nonempty
  ascending := pairwise_lt_iff.1 h.increasing
  plain := fun v hv => ⟨plainVerb_iff.2 (h.plain v hv), fun he => h.noWildcard (he ▸ hv)⟩

/-- Two entries for a name of a type have that type's key, under which there is one rule. -/
theorem NormalRules.Normal.eq_of_covers (h : m.Normal) (ht : t ∈ resourceTypes) {key' : String} {r' : PolicyRule}
    (hr : (key, r) ∈ m) (hr' : (key', r') ∈ m) (hc : r.Covers t n) (hc' : r'.Covers t n) : key = key' ∧ r = r' := by
  obtain ⟨t₁, n₁, hat⟩ := h.entry _ _ hr
  obtain ⟨t₂, n₂, hat'⟩ := h.entry _ _ hr'
  -- a normal rule covers one name of one type only
  obtain ⟨rfl, rfl⟩ := (hat.covers_iff ht).1 hc
  obtain ⟨rfl, rfl⟩ := (hat'.covers_iff ht).1 hc'
  have hkey : key = key' := hat.key.trans hat'.key.symm
  subst hkey
  exact ⟨rfl, Option.some.inj ((h.ascending.get?_of_mem hr).symm.trans (h.ascending.get?_of_mem hr'))⟩

theorem NormalRules.canonical_iff_normal : m.Canonical ↔ m.Normal := by
  constructor
  · intro h
    refine ⟨List.pairwise_map.1 (pairwise_lt_iff.1 h.increasing), fun key r hr => ?_⟩
    obtain ⟨t, ht, n, hat⟩ := h.entry key r hr
    exact ⟨t, n, hat.normalAt ht⟩
  · intro h
    refine ⟨pairwise_lt_iff.2 (List.pairwise_map.2 h.ascending), fun key r hr => ?_, ?_⟩
    · obtain ⟨t, n, hat⟩ := h.entry key r hr
      exact ⟨t, hat.resource, n, hat.canonicalAt⟩
    · intro t ht n key r key' r' hr hr' hc hc'
      exact h.eq_of_covers ht hr hr' hc hc'

/-! ## What comes out -/

/-- Merging nothing into a normal form leaves it as it is. -/
theorem NormalRules.Normal.merge_nil (h : m.Normal) (o : Options) : merge o m [] = .ok m := by
  obtain ⟨m', hm'⟩ : ∃ m', merge o m [] = .ok m' := (merge_ok_iff h).2 fun _ hr => nomatch hr
  have hnone : ∀ t n v, ¬ Listed [] t n v := fun t n v ⟨_, hr, _⟩ => nomatch hr
  have heq : m' = m := (normal_merge hm').ext h fun t ht n v => by
    rw [gives_merge h hm' ht]
    simp only [hnone, false_and, false_or, not_false_iff, true_and, or_false]
  rw [hm', heq]

/-- The canonical forms are what merging gives. -/
theorem NormalRules.canonical_iff_merged : m.Canonical ↔ ∃ o m₀ rules, merge o m₀ rules = .ok m := by
  rw [canonical_iff_normal]
  exact ⟨fun h => ⟨{}, m, [], h.merge_nil {}⟩, fun ⟨_, _, _, h⟩ => normal_merge h⟩

/-- What rules are normalized to is canonical, and so is what comes of merging rules into rules under keys of any
kind, these canonical or not: each entry has the group and the plural of one type of the table, no name or one that is
trimmed, no URLs, verbs in ascending order that are written plainly, at least one and no wildcard among them, and the
key of its own type and name; so no two entries are for the same. -/
theorem normalized_canonical :
    (∀ (o : Options) (rules : List PolicyRule) (m : NormalRules), build o rules = .ok m → m.Canonical) ∧
    ∀ (o : Options) (m : NormalRules) (rules : List PolicyRule) (m' : NormalRules), merge o m rules = .ok m' →
      m'.Canonical := by
  refine ⟨fun o rules m h => ?_, fun o m rules m' h => ?_⟩
  · exact NormalRules.canonical_iff_normal.2 (normal_build h)
  · exact NormalRules.canonical_iff_normal.2 (normal_merge h)

/-- A rule under a key that is not its own, with groups and URLs that count for nothing and names and verbs that are
not written plainly. -/
def strayRules : NormalRules :=
  [ ("stray",
      { apiGroups := some ["example.com"], nonResourceURLs := some ["/healthz"],
        resources := some [" Stages ", "secrets"], resourceNames := some [" prod "], verbs := [" GET ", "get", ""] }) ]

/-- Merged with a wildcard on all stages, the stray rule gives two entries of its own; the wildcard alone gives one. -/
theorem strayRules_canonical :
    let merged : NormalRules :=
      [ (ruleKey coreGroup "secrets" "prod", ⟨some [""], none, some ["prod"], some ["secrets"], ["get"]⟩),
        (stagesKey, normalRule stages "" baseVerbs),
        (ruleKey pipelineGroup "stages" "prod", normalRule stages "prod" ["get"]) ]
    let alone : NormalRules := [(stagesKey, normalRule stages "" baseVerbs)]
    (merge {} strayRules [allStageVerbs] = .ok merged ∧ merged.Canonical) ∧
      build {} [allStageVerbs] = .ok alone ∧ alone.Canonical := by
  intro merged alone
  have hmerge : merge {} strayRules [allStageVerbs] = .ok merged := rfl
  have hbuild : build {} [allStageVerbs] = .ok alone := rfl
  exact ⟨⟨hmerge, normalized_canonical.2 _ _ _ _ hmerge⟩, hbuild, normalized_canonical.1 _ _ _ hbuild⟩

end AccessGate.Rules
