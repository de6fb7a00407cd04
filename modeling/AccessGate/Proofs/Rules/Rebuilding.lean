/-
Rules that are kept, and built again. Merging into kept rules looks at these alone and not at the keys that they are
kept under, so it is building from them and the new ones, and a fault leaves all as it was (`mergeInto_rebuilds`).
Building from what is canonical gives it back, however wildcards are expanded, and gives back nothing else
(`canonical_iff_rebuilt`); so to normalize a second time changes nothing (`normalized_again`).
-/
import AccessGate.Proofs.Outcome
import AccessGate.Proofs.Rules.Canonical

namespace AccessGate.Rules

variable {o : Options} {rules : List PolicyRule} {m m' : NormalRules}

/-! ## A second time -/

/-- What is normal is built from its own rules again. -/
theorem NormalRules.Normal.build_values (h : m.Normal) (o : Options) : build o m.values = .ok m := by
  have hmerge := h.merge_nil o
  rwa [merge_eq_build, List.append_nil] at hmerge

/-- The canonical forms are what is built from its own rules again. -/
theorem NormalRules.canonical_iff_rebuilt (o : Options) : m.Canonical ↔ build o m.values = .ok m :=
  canonical_iff_normal.trans ⟨fun h => h.build_values o, normal_build⟩

/-- What rules are normalized to stays as it is when it is normalized again, whatever the wildcard stood for the first
time and would stand for the second; and what is built from rules, or comes of merging rules into any, is built
again from its own rules, under the same keys. -/
theorem normalized_again :
    (∀ (o o' : Options) (rules r : List PolicyRule), normalize o rules = .ok r → normalize o' r = .ok r) ∧
    (∀ (o o' : Options) (rules : List PolicyRule) (m : NormalRules), build o rules = .ok m →
      build o' m.values = .ok m) ∧
    ∀ (o o' : Options) (kept : NormalRules) (rules : List PolicyRule) (m : NormalRules), merge o kept rules = .ok m →
      build o' m.values = .ok m := by
  refine ⟨fun o o' rules r h => ?_, fun o o' rules m h => ?_, fun o o' kept rules m h => ?_⟩
  · obtain ⟨m, hm, rfl⟩ := map_eq_ok.1 h
    exact map_eq_ok.2 ⟨m, (normal_build hm).build_values o', rfl⟩
  · exact (normal_build h).build_values o'
  · exact (normal_merge h).build_values o'

/-- Expanded with the type's own verb the first time, a wildcard keeps it the second time, when it would not have
stood for it; and it does not come in when it would. -/
theorem stageRules_normalized_again :
    let custom : NormalRules := [(stagesKey, normalRule stages "" (stages.expandWildcard true)),
      (ruleKey pipelineGroup "stages" "prod", normalRule stages "prod" ["promote"])]
    let base : NormalRules := [(stagesKey, normalRule stages "" baseVerbs),
      (ruleKey pipelineGroup "stages" "prod", normalRule stages "prod" ["promote"])]
    (normalize ⟨true⟩ stageRules = .ok custom.values ∧ normalize {} custom.values = .ok custom.values) ∧
      (build {} stageRules = .ok base ∧ build ⟨true⟩ base.values = .ok base) ∧
      merge {} custom [ownStageVerb] = .ok custom ∧ build {} custom.values = .ok custom := by
  intro custom base
  have hnormalize : normalize ⟨true⟩ stageRules = .ok custom.values := rfl
  have hbuild : build {} stageRules = .ok base := rfl
  have hmerge : merge {} custom [ownStageVerb] = .ok custom := rfl
  exact ⟨⟨hnormalize, normalized_again.1 _ _ _ _ hnormalize⟩, ⟨hbuild, normalized_again.2.1 _ _ _ _ hbuild⟩,
    hmerge, normalized_again.2.2 _ _ _ _ _ hmerge⟩

/-! ## Merging into rules that are kept -/

theorem run_mergeInto (o : Options) (rules : List PolicyRule) (m : NormalRules) :
    (mergeInto o rules).run m = (ofExcept (merge o m rules) >>= set : EStateM RuleError NormalRules Unit).run m := rfl

theorem mergeInto_eq_ok : (mergeInto o rules).run m = .ok () m' ↔ merge o m rules = .ok m' := by
  rw [run_mergeInto]
  cases merge o m rules with
  | ok merged => exact ⟨fun h => by cases h; rfl, fun h => by cases h; rfl⟩
  | error e => exact ⟨fun h => (nomatch h), fun h => (nomatch h)⟩

theorem mergeInto_eq_error {e : RuleError} :
    (mergeInto o rules).run m = .error e m' ↔ merge o m rules = .error e ∧ m' = m := by
  rw [run_mergeInto]
  cases merge o m rules with
  | ok merged => exact ⟨fun h => (nomatch h), fun h => (nomatch h.1)⟩
  | error e' => exact ⟨fun h => by cases h; exact ⟨rfl, rfl⟩, fun ⟨h, hm⟩ => by cases h; cases hm; rfl⟩

/-- Every entry of what is built is under its own key, and there is a rule that covers it. -/
theorem exists_covers_of_mem_build (h : build o rules = .ok m) {key : String} {r : PolicyRule} (hr : (key, r) ∈ m) :
    ∃ t ∈ resourceTypes, ∃ n, CanonicalAt t n key r ∧ ∃ rule ∈ rules, rule.Covers t n := by
  obtain ⟨t, n, hat⟩ := (normal_build h).entry key r hr
  refine ⟨t, hat.resource, n, hat.canonicalAt, ?_⟩
  obtain ⟨v, hv⟩ := List.exists_mem_of_ne_nil _ hat.nonempty
  have hgranted := (gives_build h hat.resource n v).1 (((normal_build h).gives_iff_of_mem hr hat).2 hv)
  -- whether the verb is listed or the wildcard stands for it, a rule lists something there
  rcases hgranted with ⟨⟨rule, hrule, hcov, -⟩, -⟩ | ⟨-, rule, hrule, hcov, -⟩
  · exact ⟨rule, hrule, hcov⟩
  · exact ⟨rule, hrule, hcov⟩

/-- Merging into rules that are kept under any keys is building from these, in the order of the keys, and the new ones:
it succeeds with what is built, or tells the fault that building has, and then nothing changes. No entry that is there
afterwards has a key other than its own, or covers what no kept or new rule covers. -/
theorem mergeInto_rebuilds (o : Options) (m : NormalRules) (rules : List PolicyRule) :
    (∀ m', (mergeInto o rules).run m = .ok () m' ↔ build o (m.values ++ rules) = .ok m') ∧
    (∀ e m', (mergeInto o rules).run m = .error e m' ↔ build o (m.values ++ rules) = .error e ∧ m' = m) ∧
    ∀ m', (mergeInto o rules).run m = .ok () m' → ∀ key r, (key, r) ∈ m' →
      ∃ t ∈ resourceTypes, ∃ n, CanonicalAt t n key r ∧ ∃ rule ∈ m.values ++ rules, rule.Covers t n := by
  simp only [mergeInto_eq_ok, mergeInto_eq_error, merge_eq_build, implies_true, true_and]
  exact fun m' h key r hr => exists_covers_of_mem_build h hr

/-- A kept rule that names its type by the singular, under the key of another. -/
def faultyRules : NormalRules :=
  [ (stagesKey, { resources := some ["role"], verbs := ["get"] }) ]

/-- The stray key goes when the merge succeeds. Where both a kept and a new rule are faulty the kept one is told,
and it stays. -/
theorem strayRules_rebuilt :
    let blankName : PolicyRule :=
      { resources := some ["stages"], resourceNames := some ["prod", " "], verbs := ["delete"] }
    let merged : NormalRules :=
      [ (ruleKey coreGroup "secrets" "prod", ⟨some [""], none, some ["prod"], some ["secrets"], ["get"]⟩),
        (stagesKey, normalRule stages "" baseVerbs),
        (ruleKey pipelineGroup "stages" "prod", normalRule stages "prod" ["get"]) ]
    ((mergeInto {} [allStageVerbs]).run strayRules = .ok () merged ∧
      ∀ key r, (key, r) ∈ merged → ∃ t ∈ resourceTypes, ∃ n, CanonicalAt t n key r ∧
        ∃ rule ∈ strayRules.values ++ [allStageVerbs], rule.Covers t n) ∧
      (mergeInto {} [blankName]).run strayRules = .error (.blankName "stages") strayRules ∧
      (mergeInto {} [blankName]).run faultyRules = .error (.singularResource "role" "roles") faultyRules := by
  intro blankName merged
  have hmerged := ((mergeInto_rebuilds {} strayRules [allStageVerbs]).1 merged).2 rfl
  exact ⟨⟨hmerged, (mergeInto_rebuilds {} strayRules [allStageVerbs]).2.2 merged hmerged⟩,
    ((mergeInto_rebuilds {} strayRules [blankName]).2.1 _ _).2 ⟨rfl, rfl⟩,
    ((mergeInto_rebuilds {} faultyRules [blankName]).2.1 _ _).2 ⟨rfl, rfl⟩⟩

end AccessGate.Rules
