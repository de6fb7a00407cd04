/-
What is wrong with rules. A fault belongs to a rule and one of the resources it lists (`PolicyRule.Faulty`): the resource
is no plural of the table, or it is one and a name in the rule is blank. Rules are gone through in order, and in each
the resources that it lists (`mentions`). Main statement: normalizing fails if and only if there is a fault, and with the
first one (`fails_with_first_fault`).
-/
import AccessGate.Proofs.Rules.Grants

namespace AccessGate.Rules

/-! ## Faults -/

/-- Whether a rule has a fault at a resource that it lists. A resource that is no plural is told before a blank name,
with the plural that its singular belongs to if it is one. -/
inductive PolicyRule.Faulty (r : PolicyRule) (resource : String) : RuleError → Prop
  | singular {t : ResourceType} : t ∈ resourceTypes → t.singular = Text.toLower (Text.trim resource) →
      (∀ t' ∈ resourceTypes, t'.plural ≠ Text.toLower (Text.trim resource)) →
      r.Faulty resource (.singularResource (Text.toLower (Text.trim resource)) t.plural)
  | unknown : (∀ t ∈ resourceTypes, t.plural ≠ Text.toLower (Text.trim resource) ∧
        t.singular ≠ Text.toLower (Text.trim resource)) →
      r.Faulty resource (.unknownResource (Text.toLower (Text.trim resource)))
  | blank {t : ResourceType} {name : String} : t ∈ resourceTypes → t.plural = Text.toLower (Text.trim resource) →
      name ∈ r.resourceNames.getD [] → Text.trim name = "" → r.Faulty resource (.blankName t.plural)

/-- What rules mention: each resource that a rule lists, with the rule, in order. -/
def mentions (rules : List PolicyRule) : List (PolicyRule × String) :=
  rules.flatMap fun r => (r.resources.getD []).map fun resource => (r, resource)

/-- Whether a fault is the first one: nothing that is mentioned before has any. -/
def FirstFault (rules : List PolicyRule) (e : RuleError) : Prop :=
  ∃ before r resource after, mentions rules = before ++ (r, resource) :: after ∧
    (∀ p ∈ before, ∀ e', ¬ p.1.Faulty p.2 e') ∧ r.Faulty resource e

namespace PolicyRule

variable {r : PolicyRule} {resource : String} {e : RuleError}

theorem any_plainNames : r.plainNames.any (· == "") = true ↔ ∃ name ∈ r.resourceNames.getD [], Text.trim name = "" := by
  simp [plainNames]

/-- What a rule contributes for a resource is refused with the fault that it has there. -/
theorem contributionsFor_eq_error : r.contributionsFor resource = .error e ↔ r.Faulty resource e := by
  unfold contributionsFor
  constructor
  · intro h
    cases hl : lookup (Text.toLower (Text.trim resource)) with
    | error e' =>
      rw [hl] at h
      cases h
      obtain ⟨hplural, ⟨t, ht, hname, rfl⟩ | ⟨hnone, rfl⟩⟩ := lookup_eq_error.1 hl
      · exact .singular ht hname hplural
      · exact .unknown fun t ht => ⟨hplural t ht, hnone t ht⟩
    | ok t =>
      -- the resource is a plural, so only a blank name can be wrong
      obtain ⟨ht, hp⟩ := lookup_eq_ok.1 hl
      simp only [hl] at h
      split at h
      · rename_i hb
        cases h
        obtain ⟨name, hname, hblank⟩ := any_plainNames.1 hb
        exact .blank ht hp hname hblank
      · cases h
  · intro h
    cases h with
    | singular ht hname hplural => rw [lookup_eq_error.2 ⟨hplural, .inl ⟨_, ht, hname, rfl⟩⟩]
    | unknown hnone => rw [lookup_eq_error.2 ⟨fun t ht => (hnone t ht).1, .inr ⟨fun t ht => (hnone t ht).2, rfl⟩⟩]
    | blank ht hp hname hblank =>
      rw [lookup_eq_ok.2 ⟨ht, hp⟩]
      exact if_pos (any_plainNames.2 ⟨_, hname, hblank⟩)

theorem contributionsFor_ok_iff : (∃ cs, r.contributionsFor resource = .ok cs) ↔ ∀ e, ¬ r.Faulty resource e := by
  simp only [← contributionsFor_eq_error]
  cases r.contributionsFor resource with
  | ok cs => simp
  | error e => simp

end PolicyRule

/-! ## The first fault -/

variable {o : Options} {rules : List PolicyRule} {e : RuleError}

/-- What rules contribute is what they do at each resource that is mentioned. -/
theorem contributions_eq_mentions (rules : List PolicyRule) : contributions rules =
    ((mentions rules).mapM fun p => PolicyRule.contributionsFor p.1 p.2).map List.flatten :=
  mapM_flatten_pairs rules

theorem contributions_eq_error : contributions rules = .error e ↔ FirstFault rules e := by
  rw [contributions_eq_mentions, mapM_flatten_eq_error]
  simp only [PolicyRule.contributionsFor_ok_iff, PolicyRule.contributionsFor_eq_error, Prod.exists, FirstFault]

theorem build_eq_error : build o rules = .error e ↔ FirstFault rules e := by
  rw [build_eq, gather_eq, ← contributions_eq_error]
  cases contributions rules with
  | ok cs => exact ⟨fun h => (nomatch h), fun h => (nomatch h)⟩
  | error e' => exact ⟨fun h => by cases h; rfl, fun h => by cases h; rfl⟩

/-! ## What makes no difference -/

/-- A rule with other verbs. -/
def PolicyRule.withVerbs (r : PolicyRule) (verbs : List String) : PolicyRule :=
  { r with verbs }

theorem PolicyRule.Faulty.of_names {r r' : PolicyRule} {resource : String} (h : r.Faulty resource e)
    (hnames : r.resourceNames = r'.resourceNames) : r'.Faulty resource e := by
  cases h with
  | singular ht hname hplural => exact .singular ht hname hplural
  | unknown hnone => exact .unknown hnone
  | blank ht hp hname hblank => exact .blank ht hp (hnames ▸ hname) hblank

/-- The first fault is the same whatever the verbs of the rules are. -/
theorem firstFault_withVerbs (verbs : PolicyRule → List String) :
    FirstFault (rules.map fun r => r.withVerbs (verbs r)) e ↔ FirstFault rules e := by
  have hmentions : mentions (rules.map fun r => r.withVerbs (verbs r)) =
      (mentions rules).map fun p => (p.1.withVerbs (verbs p.1), p.2) := by
    simp only [mentions, List.flatMap_map, List.map_flatMap, List.map_map]
    rfl
  unfold FirstFault
  rw [hmentions]
  -- what is mentioned has the same places, and the same faults at each, with either verbs
  constructor
  · rintro ⟨before, r, resource, after, hm, hbefore, h⟩
    obtain ⟨before, rest, hsplit, rfl, hrest⟩ := List.map_eq_append_iff.1 hm
    obtain ⟨⟨r, resource⟩, after, rfl, hr, rfl⟩ := List.map_eq_cons_iff.1 hrest
    cases hr
    exact ⟨before, r, resource, after, hsplit, fun p hp e' hf =>
      hbefore _ (List.mem_map_of_mem hp) e' (hf.of_names rfl), h.of_names rfl⟩
  · rintro ⟨before, r, resource, after, hm, hbefore, h⟩
    rw [hm, List.map_append, List.map_cons]
    refine ⟨_, _, _, _, rfl, fun p hp e' hf => ?_, h.of_names rfl⟩
    obtain ⟨q, hq, rfl⟩ := List.mem_map.1 hp
    exact hbefore q hq e' (hf.of_names rfl)

/-- A rule that lists no resource is not mentioned. -/
theorem mentions_filter : ∀ rules : List PolicyRule,
    mentions (rules.filter fun r => r.resources.getD [] ≠ []) = mentions rules
  | [] => rfl
  | r :: rules => by
    have ih := mentions_filter rules
    unfold mentions at ih ⊢
    rw [List.flatMap_cons, ← ih]
    by_cases hr : r.resources.getD [] = []
    · rw [List.filter_cons_of_neg (by simp [hr]), hr]
      rfl
    · rw [List.filter_cons_of_pos (by simp [hr]), List.flatMap_cons]

theorem build_of_mentions {rules' : List PolicyRule} (h : mentions rules = mentions rules') :
    build o rules = build o rules' := by
  rw [build_eq, build_eq, gather_eq, gather_eq, contributions_eq_mentions, contributions_eq_mentions, h]

/-! ## When normalizing fails -/

theorem PolicyRule.not_valid_iff {r : PolicyRule} : ¬ r.Valid ↔ ∃ resource ∈ r.resources.getD [],
    (∀ t ∈ resourceTypes, t.plural ≠ Text.toLower (Text.trim resource)) ∨
      ∃ name ∈ r.resourceNames.getD [], Text.trim name = "" := by
  simp only [Valid, Classical.not_forall, exists_prop]
  refine exists_congr fun resource => and_congr_right fun _ => ?_
  rw [Classical.not_and_iff_not_or_not]
  refine or_congr ⟨fun h t ht hp => h ⟨t, ht, hp⟩, fun h ⟨t, ht, hp⟩ => h t ht hp⟩ ?_
  simp only [Classical.not_forall, exists_prop, ne_eq, Classical.not_not]

theorem build_error_iff : (∃ e, build o rules = .error e) ↔ ∃ r ∈ rules, ¬ r.Valid := by
  have hok : (∃ m, build o rules = .ok m) ↔ ∀ r ∈ rules, r.Valid := build_ok_iff
  cases hb : build o rules with
  | ok m =>
    have hvalid := hok.1 ⟨m, hb⟩
    exact ⟨fun ⟨_, h⟩ => (nomatch h), fun ⟨r, hr, h⟩ => absurd (hvalid r hr) h⟩
  | error e =>
    refine ⟨fun _ => ?_, fun _ => ⟨e, rfl⟩⟩
    apply Classical.byContradiction
    intro hnone
    obtain ⟨m, hm⟩ := hok.2 fun r hr => Classical.byContradiction fun h => hnone ⟨r, hr, h⟩
    rw [hb] at hm
    cases hm

/-- Normalizing rules fails if and only if one of them lists a resource that is no plural of the table, or any resource
beside a name that is blank; and it fails with the first fault, in the order of the rules and of the resources in
them. Rules without verbs are checked like others, and rules without resources might as well not be there. -/
theorem fails_with_first_fault (o : Options) (rules : List PolicyRule) :
    ((∃ e, build o rules = .error e) ↔ ∃ r ∈ rules, ∃ resource ∈ r.resources.getD [],
      (∀ t ∈ resourceTypes, t.plural ≠ Text.toLower (Text.trim resource)) ∨
        ∃ name ∈ r.resourceNames.getD [], Text.trim name = "") ∧
    (∀ e, build o rules = .error e ↔ FirstFault rules e) ∧
    (∀ (verbs : PolicyRule → List String) (e : RuleError),
      build o (rules.map fun r => r.withVerbs (verbs r)) = .error e ↔ build o rules = .error e) ∧
    build o (rules.filter fun r => r.resources.getD [] ≠ []) = build o rules := by
  refine ⟨?_, fun e => build_eq_error, fun verbs e => ?_, build_of_mentions (mentions_filter rules)⟩
  · simp only [build_error_iff, PolicyRule.not_valid_iff]
  · rw [build_eq_error, build_eq_error, firstFault_withVerbs]

/-- A blank name without a resource, a rule without verbs, a singular among plurals, and a blank name. -/
def untidyRules : List PolicyRule :=
  [ { resourceNames := some [" "], verbs := ["get"] },
    { resources := some [" Stages "] },
    { resources := some ["roles", " STAGE ", "pods"], resourceNames := some ["prod"] },
    { resources := some ["stages"], resourceNames := some [""], verbs := ["get"] } ]

/-- The singular is told, and not what comes after it. In a rule with a blank name the order of the resources decides:
what is no plural is told as such, and the blank name where the resource is one. -/
theorem untidyRules_first_fault :
    FirstFault untidyRules (.singularResource "stage" "stages") ∧
      FirstFault [{ resources := some ["pods", "stages"], resourceNames := some [" "] }] (.unknownResource "pods") ∧
      FirstFault [{ resources := some ["stages", "pods"], resourceNames := some [" "] }] (.blankName "stages") :=
  ⟨((fails_with_first_fault {} _).2.1 _).1 rfl, ((fails_with_first_fault {} _).2.1 _).1 rfl,
    ((fails_with_first_fault {} _).2.1 _).1 rfl⟩

end AccessGate.Rules
