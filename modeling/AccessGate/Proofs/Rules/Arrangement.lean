/-
How rules are arranged. Rules say the same as others if both are without fault or both are not, and both list the same
verbs for the names of the types (`SaySame`); then they are normalized to the same. That is so for rules in another
order, for a rule that is there twice or lists the same in another way, and for a rule that is taken apart into one for
each resource and name. Main statement: of rules that are rearranged, in as many such steps as one likes, the normal
form is the same (`build_rearranged`).
-/
import AccessGate.Proofs.Rules.Merging

namespace AccessGate.Rules

/-! ## Rules that say the same -/

/-- Whether rules say the same as others: they have a fault or not, and list what they list, alike. -/
structure SaySame (rules rules' : List PolicyRule) : Prop where
  valid : (∀ r ∈ rules, r.Valid) ↔ ∀ r ∈ rules', r.Valid
  listed : ∀ t n v, Listed rules t n v ↔ Listed rules' t n v

namespace SaySame

variable {rules rules' rules'' more more' : List PolicyRule}

theorem of_mem (h : ∀ r, r ∈ rules ↔ r ∈ rules') : SaySame rules rules' where
  valid := by simp only [h]
  listed t n v := by simp only [Listed, h]

theorem symm (h : SaySame rules rules') : SaySame rules' rules where
  valid := h.valid.symm
  listed t n v := (h.listed t n v).symm

theorem trans (h : SaySame rules rules') (h' : SaySame rules' rules'') : SaySame rules rules'' where
  valid := h.valid.trans h'.valid
  listed t n v := (h.listed t n v).trans (h'.listed t n v)

theorem append (h : SaySame rules rules') (h' : SaySame more more') : SaySame (rules ++ more) (rules' ++ more') where
  valid := by rw [List.forall_mem_append, List.forall_mem_append, h.valid, h'.valid]
  listed t n v := by rw [listed_append, listed_append, h.listed, h'.listed]

theorem refl (rules : List PolicyRule) : SaySame rules rules :=
  of_mem fun _ => Iff.rfl

/-- What says the same has the same normal form, or none. -/
theorem same_build (h : SaySame rules rules') {o : Options} {m : NormalRules} :
    build o rules = .ok m ↔ build o rules' = .ok m := by
  have forth {rules rules' : List PolicyRule} (h : SaySame rules rules') (hm : build o rules = .ok m) :
      build o rules' = .ok m := by
    obtain ⟨m', hm'⟩ : ∃ m', build o rules' = .ok m' := build_ok_iff.2 (h.valid.1 (build_ok_iff.1 ⟨m, hm⟩))
    have heq : m' = m := (normal_build hm').ext (normal_build hm) fun t ht n v => by
      rw [gives_build hm' ht, gives_build hm ht, Granted, Granted, h.listed, h.listed]
    rw [hm', heq]
  exact ⟨forth h, forth h.symm⟩

end SaySame

/-! ## One rule in another way -/

namespace PolicyRule

variable {r r' : PolicyRule} {t : ResourceType} {n v : String}

/-- The resources that a rule lists, trimmed and in lower case. -/
def plainResources (r : PolicyRule) : List String :=
  (r.resources.getD []).map fun resource => Text.toLower (Text.trim resource)

/-- Whether rules list the same resources, names and verbs, in whatever order and however often, up to white space
around them and, but for names, to case. -/
structure Alike (r r' : PolicyRule) : Prop where
  resources : ∀ s, s ∈ r.plainResources ↔ s ∈ r'.plainResources
  names : ∀ s, s ∈ r.plainNames ↔ s ∈ r'.plainNames
  verbs : ∀ s, s ∈ r.plainVerbs ↔ s ∈ r'.plainVerbs

/-- Lists of names that stand for a list: one for each name, or none at all if there are no names. -/
def nameParts : List String → List (Option (List String))
  | [] => [none]
  | name :: names => (name :: names).map fun name => some [name]

/-- A rule for one of the resources that it lists, and the given names. -/
def part (r : PolicyRule) (resource : String) (names : Option (List String)) : PolicyRule :=
  { r with resources := some [resource], resourceNames := names }

/-- A rule taken apart, into one for each resource and each name that it lists. -/
def split (r : PolicyRule) : List PolicyRule :=
  (r.resources.getD []).flatMap fun resource => (nameParts (r.resourceNames.getD [])).map (r.part resource)

theorem valid_iff : r.Valid ↔ ∀ s ∈ r.plainResources,
    (∃ t ∈ resourceTypes, t.plural = s) ∧ ∀ n ∈ r.plainNames, n ≠ "" := by
  simp only [Valid, plainResources, plainNames, List.forall_mem_map]

theorem covers_iff : r.Covers t n ↔ t.plural ∈ r.plainResources ∧ (n ∈ r.plainNames ∨ n = "" ∧ r.plainNames = []) := by
  simp only [Covers, Lists, plainResources, plainNames, List.mem_map, List.map_eq_nil_iff]

theorem Alike.of_lists (hresources : ∀ s, s ∈ r.resources.getD [] ↔ s ∈ r'.resources.getD [])
    (hnames : ∀ s, s ∈ r.resourceNames.getD [] ↔ s ∈ r'.resourceNames.getD [])
    (hverbs : ∀ s, s ∈ r.verbs ↔ s ∈ r'.verbs) : r.Alike r' where
  resources s := by simp only [plainResources, List.mem_map, hresources]
  names s := by simp only [plainNames, List.mem_map, hnames]
  verbs s := by simp only [plainVerbs, List.mem_filter, List.mem_map, hverbs]

theorem Alike.saySame (h : r.Alike r') : SaySame [r] [r'] where
  valid := by simp only [List.forall_mem_singleton, valid_iff, h.resources, h.names]
  listed t n v := by
    have hnil : r.plainNames = [] ↔ r'.plainNames = [] := by
      simp only [List.eq_nil_iff_forall_not_mem, h.names]
    simp only [Listed, List.mem_singleton, exists_eq_left, covers_iff, ← mem_plainVerbs, h.resources, h.names, h.verbs,
      hnil]

theorem mem_split {s : PolicyRule} : s ∈ r.split ↔
    ∃ resource ∈ r.resources.getD [], ∃ names ∈ nameParts (r.resourceNames.getD []), r.part resource names = s := by
  simp only [split, List.mem_flatMap, List.mem_map]

/-- A condition on all names, asked of each part, is asked of them all. -/
theorem forall_nameParts {P : Prop} {Q : String → Prop} (names : List String) :
    (∀ part ∈ nameParts names, P ∧ ∀ n ∈ part.getD [], Q n) ↔ P ∧ ∀ n ∈ names, Q n := by
  cases names with
  | nil => simp [nameParts]
  | cons name names =>
    simp only [nameParts, List.forall_mem_map, Option.getD_some, List.forall_mem_singleton]
    -- there is a first name, so there is a part of which `P` is asked
    exact ⟨fun h => ⟨(h name (List.mem_cons_self ..)).1, fun n hn => (h n hn).2⟩, fun h n hn => ⟨h.1, h.2 n hn⟩⟩

/-- A part is for one of the names, or for all instances if there are none. -/
theorem exists_nameParts {names : List String} :
    (∃ part ∈ nameParts names, (∃ name ∈ part.getD [], Text.trim name = n) ∨ n = "" ∧ part.getD [] = []) ↔
      (∃ name ∈ names, Text.trim name = n) ∨ n = "" ∧ names = [] := by
  cases names with
  | nil => simp [nameParts]
  | cons name names =>
    simp only [nameParts, reduceCtorEq, and_false, or_false]
    constructor
    · rintro ⟨part, hpart, h⟩
      obtain ⟨name', hname', rfl⟩ := List.mem_map.1 hpart
      exact ⟨name', hname', by simpa using h⟩
    · rintro ⟨name', hname', h⟩
      exact ⟨some [name'], List.mem_map_of_mem hname', .inl ⟨name', List.mem_singleton_self _, h⟩⟩

theorem valid_split : (∀ s ∈ r.split, s.Valid) ↔ r.Valid := by
  have hparts : (∀ s ∈ r.split, s.Valid) ↔ ∀ resource ∈ r.resources.getD [],
      ∀ names ∈ nameParts (r.resourceNames.getD []), (r.part resource names).Valid := by
    simp only [split, List.forall_mem_flatMap, List.forall_mem_map]
  rw [hparts]
  refine forall₂_congr fun resource _ => ?_
  rw [← forall_nameParts]
  refine forall₂_congr fun names _ => ?_
  simp only [Valid, part, Option.getD_some, List.forall_mem_singleton]

theorem covers_split : (∃ s ∈ r.split, s.Covers t n) ↔ r.Covers t n := by
  have hpart : ∀ resource names, (r.part resource names).Covers t n ↔ Text.toLower (Text.trim resource) = t.plural ∧
      ((∃ name ∈ names.getD [], Text.trim name = n) ∨ n = "" ∧ names.getD [] = []) := fun resource names => by
    simp only [Covers, Lists, part, Option.getD_some, List.mem_singleton, exists_eq_left]
  constructor
  · rintro ⟨s, hs, hcov⟩
    obtain ⟨resource, hres, names, hnames, rfl⟩ := mem_split.1 hs
    obtain ⟨hp, hn⟩ := (hpart resource names).1 hcov
    exact ⟨⟨resource, hres, hp⟩, exists_nameParts.1 ⟨names, hnames, hn⟩⟩
  · rintro ⟨⟨resource, hres, hp⟩, hn⟩
    obtain ⟨names, hnames, hn⟩ := exists_nameParts.2 hn
    exact ⟨_, mem_split.2 ⟨resource, hres, names, hnames, rfl⟩, (hpart resource names).2 ⟨hp, hn⟩⟩

theorem listsVerb_of_mem_split {s : PolicyRule} (h : s ∈ r.split) : s.ListsVerb v ↔ r.ListsVerb v := by
  obtain ⟨resource, -, names, -, rfl⟩ := mem_split.1 h
  rfl

theorem saySame_split (r : PolicyRule) : SaySame [r] r.split where
  valid := by rw [valid_split, List.forall_mem_singleton]
  listed t n v := by
    simp only [Listed, List.mem_singleton, exists_eq_left]
    constructor
    · rintro ⟨hcov, hv⟩
      obtain ⟨s, hs, hcov⟩ := covers_split.2 hcov
      exact ⟨s, hs, hcov, (listsVerb_of_mem_split hs).2 hv⟩
    · rintro ⟨s, hs, hcov, hv⟩
      exact ⟨covers_split.1 ⟨s, hs, hcov⟩, (listsVerb_of_mem_split hs).1 hv⟩

end PolicyRule

/-! ## Rearranging -/

/-- What may stand for a rule: one that lists the same, the rule twice, or the rule taken apart. -/
inductive PolicyRule.StandsFor (r : PolicyRule) : List PolicyRule → Prop
  | alike {r' : PolicyRule} : r.Alike r' → r.StandsFor [r']
  | twice : r.StandsFor [r, r]
  | split : r.StandsFor r.split

/-- Rules in another order, or with something else that may stand for one of them, in any number of steps. -/
inductive Rearranged : List PolicyRule → List PolicyRule → Prop
  | permuted {rules rules' : List PolicyRule} : rules.Perm rules' → Rearranged rules rules'
  | replaced {r : PolicyRule} {rs : List PolicyRule} (before after : List PolicyRule) : r.StandsFor rs →
      Rearranged (before ++ r :: after) (before ++ rs ++ after)
  | trans {rules rules' rules'' : List PolicyRule} : Rearranged rules rules' → Rearranged rules' rules'' →
      Rearranged rules rules''

variable {rules rules' : List PolicyRule}

theorem PolicyRule.StandsFor.saySame {r : PolicyRule} {rs : List PolicyRule} (h : r.StandsFor rs) : SaySame [r] rs := by
  cases h with
  | alike h => exact h.saySame
  | twice => exact .of_mem fun s => by simp
  | split => exact r.saySame_split

/-- Induction on the steps, of which each keeps what the rules say. -/
theorem Rearranged.saySame (h : Rearranged rules rules') : SaySame rules rules' := by
  induction h with
  | permuted h => exact .of_mem fun r => h.mem_iff
  | @replaced r rs before after h =>
    -- what stands around the rule says what it says, with the rule or with what stands for it
    have hone := ((SaySame.refl before).append h.saySame).append (.refl after)
    rwa [List.append_assoc, List.singleton_append] at hone
  | trans _ _ ih ih' => exact ih.trans ih'

/-- The normal form of rules does not depend on how they are arranged: in another order, with rules that are repeated,
that list the same in another order or repeat what they list, or that are taken apart, they are normalized if and only
if they were before, and then to the same. The same goes for what comes of merging them into any rules. -/
theorem build_rearranged (h : Rearranged rules rules') (o : Options) :
    (∀ m, build o rules = .ok m ↔ build o rules' = .ok m) ∧
    ∀ kept m, merge o kept rules = .ok m ↔ merge o kept rules' = .ok m := by
  refine ⟨fun m => h.saySame.same_build, fun kept m => ?_⟩
  rw [merge_eq_build, merge_eq_build]
  exact ((SaySame.refl kept.values).append h.saySame).same_build

/-- A rule on two names of two types. -/
def sharedRule : PolicyRule :=
  { resources := some [" Stages ", "freights"], resourceNames := some ["uat", "prod"], verbs := ["GET", "list"] }

/-- The rule is taken apart and put after the other one, which is there twice; one of the parts has its resource
twice, and its verbs the other way round. -/
theorem sharedRule_rearranged :
    let last : PolicyRule :=
      { resources := some ["freights", "freights"], resourceNames := some ["prod"], verbs := ["list", "GET"] }
    let arranged : List PolicyRule := [allStageVerbs, allStageVerbs, sharedRule.part " Stages " (some ["uat"]),
      sharedRule.part " Stages " (some ["prod"]), sharedRule.part "freights" (some ["uat"]), last]
    let freights : ResourceType := ⟨"freights", "freight", pipelineGroup, []⟩
    let entry (t : ResourceType) (n : String) (verbs : List String) : String × PolicyRule :=
      (ruleKey t.group t.plural n, normalRule t n verbs)
    let m : NormalRules := [entry freights "prod" ["get", "list"], entry freights "uat" ["get", "list"],
      entry stages "" baseVerbs, entry stages "prod" ["get", "list"], entry stages "uat" ["get", "list"]]
    Rearranged [sharedRule, allStageVerbs] arranged ∧ build {} [sharedRule, allStageVerbs] = .ok m ∧
      build {} arranged = .ok m := by
  intro last arranged freights entry m
  have hsplit : Rearranged [sharedRule, allStageVerbs] (sharedRule.split ++ [allStageVerbs]) :=
    .replaced [] [allStageVerbs] .split
  have hmoved : Rearranged (sharedRule.split ++ [allStageVerbs]) (allStageVerbs :: sharedRule.split) :=
    .permuted (List.perm_append_singleton ..)
  have htwice : Rearranged (allStageVerbs :: sharedRule.split) (allStageVerbs :: allStageVerbs :: sharedRule.split) :=
    .replaced [] sharedRule.split .twice
  have halike : (sharedRule.part "freights" (some ["prod"])).Alike last :=
    .of_lists (fun s => by simp [last, PolicyRule.part]) (fun _ => Iff.rfl) fun s => by
      simp [last, sharedRule, PolicyRule.part, or_comm]
  have hlast : Rearranged (allStageVerbs :: allStageVerbs :: sharedRule.split) arranged :=
    .replaced (arranged.take 5) [] (.alike halike)
  have hrearranged := ((hsplit.trans hmoved).trans htwice).trans hlast
  have hbuild : build {} [sharedRule, allStageVerbs] = .ok m := rfl
  exact ⟨hrearranged, hbuild, ((build_rearranged hrearranged {}).1 m).1 hbuild⟩

/-- Which fault is told does depend on the order. -/
example : build {} [{ resources := some ["pods"] }, { resources := some ["role"] }] = .error (.unknownResource "pods") ∧
    build {} [{ resources := some ["role"] }, { resources := some ["pods"] }] =
      .error (.singularResource "role" "roles") := ⟨rfl, rfl⟩

end AccessGate.Rules
