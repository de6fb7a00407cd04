/-
What gathering rules comes to. Which types, names and verbs rules contribute does not depend on what was
gathered before (`gather_eq`), so gathering is a failure that the rules alone decide, or a fold over their
contributions. After it, a verb is filed under a key if it was before or if a rule that covers the key's
type and name lists it (`mem_verbsAt_gather`), and everything is filed under its own key (`Filed.gather`).
-/
import AccessGate.Proofs.Assoc
import AccessGate.Proofs.Outcome
import AccessGate.Proofs.Rules.Key
import AccessGate.Proofs.Text.Lower

namespace AccessGate.Rules

/-! ## What rules say -/

namespace PolicyRule

/-- Whether a rule lists a type, up to case and white space around it. -/
def Lists (r : PolicyRule) (t : ResourceType) : Prop :=
  ∃ resource ∈ r.resources.getD [], Text.toLower (Text.trim resource) = t.plural

/-- Whether a rule is for a name of a type: it lists the type and names the instance, or the name is the
empty one of all instances and the rule names none. -/
def Covers (r : PolicyRule) (t : ResourceType) (n : String) : Prop :=
  r.Lists t ∧ ((∃ name ∈ r.resourceNames.getD [], Text.trim name = n) ∨ n = "" ∧ r.resourceNames.getD [] = [])

/-- Whether a rule lists a verb, up to case and white space around it. -/
def ListsVerb (r : PolicyRule) (v : String) : Prop :=
  v ≠ "" ∧ ∃ verb ∈ r.verbs, Text.toLower (Text.trim verb) = v

/-- Whether a rule is without fault: all it lists are types, and no name is blank if it lists any. -/
def Valid (r : PolicyRule) : Prop :=
  ∀ resource ∈ r.resources.getD [],
    (∃ t ∈ resourceTypes, t.plural = Text.toLower (Text.trim resource)) ∧
    ∀ name ∈ r.resourceNames.getD [], Text.trim name ≠ ""

theorem mem_plainVerbs {r : PolicyRule} {v : String} : v ∈ r.plainVerbs ↔ r.ListsVerb v := by
  simp only [plainVerbs, ListsVerb, List.mem_filter, List.mem_map, decide_eq_true_eq]
  exact and_comm

end PolicyRule

/-! ## Contributions -/

/-- What a rule contributes for one type and name. -/
structure Contribution where
  resource : ResourceType
  name : String
  verbs : List String

def Contribution.key (c : Contribution) : String :=
  ruleKey c.resource.group c.resource.plural c.name

/-- What was gathered, with one contribution more. -/
def Contribution.addTo (g : Gathering) (c : Contribution) : Gathering :=
  gatherTarget c.resource c.verbs g c.name

namespace PolicyRule

/-- The names that a rule is for; if it names none, the empty one, which stands for all instances. -/
def targetNames (r : PolicyRule) : List String :=
  if r.plainNames.isEmpty then [""] else r.plainNames

/-- What a rule contributes for one of the resources it lists. -/
def contributionsFor (r : PolicyRule) (resource : String) : Except RuleError (List Contribution) :=
  match lookup (Text.toLower (Text.trim resource)) with
  | .error e => .error e
  | .ok t =>
    if r.plainNames.any (· == "") then .error (.blankName t.plural)
    else .ok (r.targetNames.map fun n => ⟨t, n, r.plainVerbs⟩)

def contributions (r : PolicyRule) : Except RuleError (List Contribution) :=
  ((r.resources.getD []).mapM r.contributionsFor).map List.flatten

end PolicyRule

/-- What rules contribute, in their order, or the first fault. -/
def contributions (rules : List PolicyRule) : Except RuleError (List Contribution) :=
  (rules.mapM PolicyRule.contributions).map List.flatten

section Steps

variable {α β γ ε : Type} {f : α → Except ε (List β)}

/-- Steps that add what each item gives, or fail, add all of it in the end, or fail as the first that does. -/
theorem foldlM_eq_map_foldl (add : γ → β → γ) : ∀ (l : List α) (g : γ),
    l.foldlM (fun g a => (f a).map fun bs => bs.foldl add g) g =
      ((l.mapM f).map List.flatten).map fun bs => bs.foldl add g
  | [], g => rfl
  | a :: l, g => by
    rw [List.foldlM_cons, List.mapM_cons]
    cases ha : f a with
    | error e => rfl
    | ok bs =>
      have ih := foldlM_eq_map_foldl add l (bs.foldl add g)
      cases hl : l.mapM f with
      | error e => rw [hl] at ih; exact ih
      | ok bss =>
        rw [hl] at ih
        exact ih.trans (congrArg Except.ok List.foldl_append.symm)

theorem mapM_flatten_cons {a : α} {l : List α} {out : List β} :
    ((a :: l).mapM f).map List.flatten = .ok out ↔
      ∃ bs rest, f a = .ok bs ∧ (l.mapM f).map List.flatten = .ok rest ∧ out = bs ++ rest := by
  rw [List.mapM_cons]
  cases f a with
  | error e => exact ⟨fun h => (nomatch h), fun ⟨_, _, h, _⟩ => (nomatch h)⟩
  | ok bs =>
    cases l.mapM f with
    | error e => exact ⟨fun h => (nomatch h), fun ⟨_, _, _, h, _⟩ => (nomatch h)⟩
    | ok bss =>
      constructor
      · rintro ⟨⟩
        exact ⟨bs, bss.flatten, rfl, rfl, rfl⟩
      · rintro ⟨_, _, ⟨⟩, ⟨⟩, rfl⟩
        rfl

theorem mapM_flatten_ok_iff {l : List α} :
    (∃ out, (l.mapM f).map List.flatten = .ok out) ↔ ∀ a ∈ l, ∃ bs, f a = .ok bs := by
  rw [← mapM_ok_iff]
  simp only [map_eq_ok]
  constructor
  · rintro ⟨_, bss, hl, -⟩
    exact ⟨bss, hl⟩
  · rintro ⟨bss, hl⟩
    exact ⟨_, bss, hl, rfl⟩

theorem mem_of_mapM_flatten {b : β} : ∀ {l : List α} {out : List β}, (l.mapM f).map List.flatten = .ok out →
    (b ∈ out ↔ ∃ a ∈ l, ∃ bs, f a = .ok bs ∧ b ∈ bs)
  | [], out, h => by cases h; simp
  | a :: l, out, h => by
    obtain ⟨bs, rest, ha, hl, rfl⟩ := mapM_flatten_cons.1 h
    rw [List.mem_append, mem_of_mapM_flatten hl]
    simp only [List.mem_cons, or_and_right, exists_or, exists_eq_left, ha, Except.ok.injEq, exists_eq_left']

theorem mapM_flatten_cons_eq (a : α) (l : List α) : ((a :: l).mapM f).map List.flatten =
    (f a).bind fun bs => ((l.mapM f).map List.flatten).map (bs ++ ·) := by
  rw [List.mapM_cons]
  cases f a with
  | error e => rfl
  | ok bs => cases l.mapM f <;> rfl

theorem mapM_flatten_append (l l' : List α) : ((l ++ l').mapM f).map List.flatten =
    ((l.mapM f).map List.flatten).bind fun bs => ((l'.mapM f).map List.flatten).map (bs ++ ·) := by
  rw [List.mapM_append]
  cases l.mapM f with
  | error e => rfl
  | ok bss =>
    cases l'.mapM f with
    | error e => rfl
    | ok bss' => exact congrArg Except.ok List.flatten_append

/-- Steps that go through the parts of each item go through the items paired with their parts. -/
theorem mapM_flatten_pairs {f : α → β → Except ε (List γ)} {parts : α → List β} : ∀ l : List α,
    (l.mapM fun a => ((parts a).mapM (f a)).map List.flatten).map List.flatten =
      ((l.flatMap fun a => (parts a).map fun b => (a, b)).mapM fun p => f p.1 p.2).map List.flatten
  | [] => rfl
  | a :: l => by
    rw [mapM_flatten_cons_eq, mapM_flatten_pairs l, List.flatMap_cons, mapM_flatten_append, List.mapM_map]
    rfl

/-- Steps that may fail do so with what the first one does that fails. -/
theorem mapM_flatten_eq_error {e : ε} {l : List α} : (l.mapM f).map List.flatten = .error e ↔
    ∃ before a after, l = before ++ a :: after ∧ (∀ b ∈ before, ∃ bs, f b = .ok bs) ∧ f a = .error e :=
  map_eq_error.trans mapM_eq_error

end Steps

theorem gatherResource_eq (r : PolicyRule) (g : Gathering) (resource : String) :
    gatherResource r g resource = (r.contributionsFor resource).map fun cs => cs.foldl Contribution.addTo g := by
  unfold gatherResource PolicyRule.contributionsFor
  cases lookup (Text.toLower (Text.trim resource)) with
  | error e => rfl
  | ok t =>
    by_cases hb : r.plainNames.any (· == "") = true
    · simp only [if_pos hb]
      rfl
    · simp only [if_neg hb, Except.map, List.foldl_map]
      rfl

theorem gatherRule_eq (g : Gathering) (r : PolicyRule) :
    gatherRule g r = r.contributions.map fun cs => cs.foldl Contribution.addTo g := by
  rw [gatherRule, funext fun g => funext (gatherResource_eq r g), foldlM_eq_map_foldl]
  rfl

/-- Gathering adds the contributions of the rules, which do not depend on what was gathered before. -/
theorem gather_eq (g : Gathering) (rules : List PolicyRule) :
    gather g rules = (contributions rules).map fun cs => cs.foldl Contribution.addTo g := by
  rw [gather, funext fun g => funext (gatherRule_eq g), foldlM_eq_map_foldl]
  rfl

theorem gather_append (g : Gathering) (rules rules' : List PolicyRule) :
    gather g (rules ++ rules') = (gather g rules).bind fun g => gather g rules' :=
  List.foldlM_append

/-! ## What contributions are -/

namespace PolicyRule

variable {r : PolicyRule}

theorem mem_targetNames {n : String} : n ∈ r.targetNames ↔
    (∃ name ∈ r.resourceNames.getD [], Text.trim name = n) ∨ n = "" ∧ r.resourceNames.getD [] = [] := by
  unfold targetNames plainNames
  cases r.resourceNames.getD [] with
  | nil => simp
  | cons name names =>
    show n ∈ Text.trim name :: names.map Text.trim ↔ _
    simp only [List.mem_cons, List.mem_map, exists_eq_or_imp, reduceCtorEq, and_false, or_false]
    exact or_congr_left eq_comm

theorem contributionsFor_eq_ok {resource : String} {cs : List Contribution} :
    r.contributionsFor resource = .ok cs ↔
      ∃ t ∈ resourceTypes, t.plural = Text.toLower (Text.trim resource) ∧
        (∀ name ∈ r.resourceNames.getD [], Text.trim name ≠ "") ∧
        cs = r.targetNames.map fun n => ⟨t, n, r.plainVerbs⟩ := by
  have hblank : r.plainNames.any (· == "") = true ↔ ¬ ∀ name ∈ r.resourceNames.getD [], Text.trim name ≠ "" := by
    simp [plainNames]
  unfold contributionsFor
  cases hl : lookup (Text.toLower (Text.trim resource)) with
  | error e =>
    refine ⟨fun h => (nomatch h), fun ⟨t, ht, hp, _⟩ => ?_⟩
    rw [lookup_eq_ok.2 ⟨ht, hp⟩] at hl
    cases hl
  | ok t =>
    obtain ⟨ht, hp⟩ := lookup_eq_ok.1 hl
    by_cases hb : r.plainNames.any (· == "") = true
    · simp only [if_pos hb]
      exact ⟨fun h => (nomatch h), fun ⟨_, _, _, h, _⟩ => absurd h (hblank.1 hb)⟩
    · simp only [if_neg hb]
      rw [hblank, Classical.not_not] at hb
      constructor
      · rintro ⟨⟩
        exact ⟨t, ht, hp, hb, rfl⟩
      · rintro ⟨t', ht', hp', -, rfl⟩
        rw [resourceTypes_plural t' ht' t ht (hp'.trans hp.symm)]

theorem contributions_ok_iff : (∃ cs, r.contributions = .ok cs) ↔ r.Valid := by
  unfold contributions Valid
  rw [mapM_flatten_ok_iff]
  refine forall₂_congr fun resource _ => ?_
  constructor
  · rintro ⟨cs, h⟩
    obtain ⟨t, ht, hp, hn, -⟩ := contributionsFor_eq_ok.1 h
    exact ⟨⟨t, ht, hp⟩, hn⟩
  · rintro ⟨⟨t, ht, hp⟩, hn⟩
    exact ⟨_, contributionsFor_eq_ok.2 ⟨t, ht, hp, hn, rfl⟩⟩

theorem mem_contributions {cs : List Contribution} (h : r.contributions = .ok cs) {c : Contribution} :
    c ∈ cs ↔ c.resource ∈ resourceTypes ∧ r.Covers c.resource c.name ∧ c.verbs = r.plainVerbs := by
  unfold contributions at h
  rw [mem_of_mapM_flatten h]
  constructor
  · rintro ⟨resource, hres, bs, hbs, hc⟩
    obtain ⟨t, ht, hp, -, rfl⟩ := contributionsFor_eq_ok.1 hbs
    obtain ⟨n, hn, rfl⟩ := List.mem_map.1 hc
    exact ⟨ht, ⟨⟨resource, hres, hp.symm⟩, mem_targetNames.1 hn⟩, rfl⟩
  · obtain ⟨t, n, verbs⟩ := c
    rintro ⟨ht, ⟨⟨resource, hres, hp⟩, hn⟩, rfl⟩
    obtain ⟨bs, hbs⟩ := mapM_flatten_ok_iff.1 ⟨cs, h⟩ resource hres
    obtain ⟨t', ht', hp', -, rfl⟩ := contributionsFor_eq_ok.1 hbs
    cases resourceTypes_plural t' ht' t ht (hp'.trans hp)
    exact ⟨resource, hres, _, hbs, List.mem_map.2 ⟨n, mem_targetNames.2 hn, rfl⟩⟩

end PolicyRule

variable {rules : List PolicyRule}

/-- Gathering fails on no rules but faulty ones. -/
theorem contributions_ok_iff : (∃ cs, contributions rules = .ok cs) ↔ ∀ r ∈ rules, r.Valid := by
  unfold contributions
  rw [mapM_flatten_ok_iff]
  exact forall₂_congr fun r _ => PolicyRule.contributions_ok_iff

theorem mem_contributions {cs : List Contribution} (h : contributions rules = .ok cs) {c : Contribution} :
    c ∈ cs ↔ c.resource ∈ resourceTypes ∧ ∃ r ∈ rules, r.Covers c.resource c.name ∧ c.verbs = r.plainVerbs := by
  unfold contributions at h
  rw [mem_of_mapM_flatten h]
  constructor
  · rintro ⟨r, hr, bs, hbs, hc⟩
    obtain ⟨ht, hcov, hv⟩ := (PolicyRule.mem_contributions hbs).1 hc
    exact ⟨ht, r, hr, hcov, hv⟩
  · rintro ⟨ht, r, hr, hcov, hv⟩
    obtain ⟨bs, hbs⟩ := mapM_flatten_ok_iff.1 ⟨cs, h⟩ r hr
    exact ⟨r, hr, bs, hbs, (PolicyRule.mem_contributions hbs).2 ⟨ht, hcov, hv⟩⟩

/-! ## Verbs under a key -/

theorem mem_addVerbs {v : String} : ∀ {verbs : List String} {set : Verbs},
    v ∈ (addVerbs set verbs).keys ↔ v ∈ set.keys ∨ v ∈ verbs
  | [], set => by simp [addVerbs]
  | w :: verbs, set => by
    show v ∈ (addVerbs (set.insert w ()) verbs).keys ↔ _
    rw [mem_addVerbs, Assoc.mem_keys_insert, List.mem_cons, ← or_assoc, or_comm (b := v = w)]

theorem ascending_addVerbs : ∀ (verbs : List String) {set : Verbs}, Assoc.Ascending set →
    Assoc.Ascending (addVerbs set verbs)
  | [], _, h => h
  | w :: verbs, _, h => ascending_addVerbs verbs (h.insert w ())

/-- The verbs that were gathered under a key. -/
def verbsAt (g : Gathering) (key : String) : Verbs :=
  ((g.get? key).map Gathered.verbs).getD []

theorem verbsAt_of_get? {g : Gathering} {key : String} {x : Gathered} (h : g.get? key = some x) :
    verbsAt g key = x.verbs := by
  rw [verbsAt, h]
  rfl

theorem verbsAt_addTo (g : Gathering) (c : Contribution) (key : String) :
    verbsAt (c.addTo g) key = if c.key = key then addVerbs (verbsAt g key) c.verbs else verbsAt g key := by
  unfold Contribution.addTo gatherTarget
  by_cases hk : c.key = key
  · rw [if_pos hk, ← hk]
    refine (verbsAt_of_get? (Assoc.get?_insert_self _ _ g)).trans ?_
    unfold verbsAt Contribution.key
    cases g.get? (ruleKey c.resource.group c.resource.plural c.name) <;> rfl
  · rw [if_neg hk]
    exact congrArg (fun x => (x.map Gathered.verbs).getD []) (Assoc.get?_insert_of_ne (Ne.symm hk) _ g)

theorem mem_verbsAt_addTo {g : Gathering} {c : Contribution} {key v : String} :
    v ∈ (verbsAt (c.addTo g) key).keys ↔ v ∈ (verbsAt g key).keys ∨ c.key = key ∧ v ∈ c.verbs := by
  rw [verbsAt_addTo]
  by_cases hk : c.key = key
  · rw [if_pos hk, mem_addVerbs, and_iff_right hk]
  · rw [if_neg hk]
    exact ⟨.inl, fun h => h.resolve_right fun h => hk h.1⟩

/-- Induction on the contributions: a verb is under a key if it was there or was contributed to it. -/
theorem mem_verbsAt_foldl {key v : String} : ∀ {cs : List Contribution} {g : Gathering},
    v ∈ (verbsAt (cs.foldl Contribution.addTo g) key).keys ↔
      v ∈ (verbsAt g key).keys ∨ ∃ c ∈ cs, c.key = key ∧ v ∈ c.verbs
  | [], g => by simp
  | c :: cs, g => by
    rw [List.foldl_cons, mem_verbsAt_foldl, mem_verbsAt_addTo, or_assoc]
    simp only [List.mem_cons, or_and_right, exists_or, exists_eq_left]

/-- Whether rules list a verb for a name of a type. -/
def Listed (rules : List PolicyRule) (t : ResourceType) (n v : String) : Prop :=
  ∃ r ∈ rules, r.Covers t n ∧ r.ListsVerb v

/-- What gathering files under the key of a type and name is what was there and what the rules list. -/
theorem mem_verbsAt_gather {g g' : Gathering} (h : gather g rules = .ok g') {t : ResourceType}
    (ht : t ∈ resourceTypes) {n v : String} :
    v ∈ (verbsAt g' (ruleKey t.group t.plural n)).keys ↔
      v ∈ (verbsAt g (ruleKey t.group t.plural n)).keys ∨ Listed rules t n v := by
  rw [gather_eq] at h
  cases hc : contributions rules with
  | error e => rw [hc] at h; cases h
  | ok cs =>
    rw [hc] at h
    cases h
    rw [mem_verbsAt_foldl]
    refine or_congr_right ?_
    constructor
    · rintro ⟨c, hmem, hk, hv⟩
      obtain ⟨hres, r, hr, hcov, hverbs⟩ := (mem_contributions hc).1 hmem
      obtain ⟨rfl, rfl⟩ := ruleKey_inj hres ht hk
      exact ⟨r, hr, hcov, PolicyRule.mem_plainVerbs.1 (hverbs ▸ hv)⟩
    · rintro ⟨r, hr, hcov, hv⟩
      exact ⟨⟨t, n, r.plainVerbs⟩, (mem_contributions hc).2 ⟨ht, r, hr, hcov, rfl⟩, rfl,
        PolicyRule.mem_plainVerbs.2 hv⟩

/-! ## Filing -/

/-- Whether a verb is written as normal rules write it. -/
structure PlainVerb (v : String) : Prop where
  nonempty : v ≠ ""
  plain : Text.toLower (Text.trim v) = v

theorem PolicyRule.ListsVerb.plainVerb {r : PolicyRule} {v : String} (h : r.ListsVerb v) : PlainVerb v := by
  obtain ⟨hne, w, -, rfl⟩ := h
  exact ⟨hne, Text.toLower_trim_toLower_trim w⟩

/-- Whether what was gathered under a key belongs there: the key is that of a type of the table and a trimmed
name. -/
structure Gathered.FiledAt (x : Gathered) (key : String) : Prop where
  resource : x.resource ∈ resourceTypes
  key : key = ruleKey x.resource.group x.resource.plural x.name
  name : Text.trim x.name = x.name
  ascending : Assoc.Ascending x.verbs
  plain : ∀ v ∈ x.verbs.keys, PlainVerb v

/-- Whether everything is filed where it belongs, once. -/
structure Filed (g : Gathering) : Prop where
  ascending : Assoc.Ascending g
  filed : ∀ key x, (key, x) ∈ g → x.FiledAt key

theorem filed_nil : Filed [] :=
  ⟨List.Pairwise.nil, fun _ _ h => (nomatch h)⟩

theorem Filed.addTo {g : Gathering} (h : Filed g) {c : Contribution} (resource : c.resource ∈ resourceTypes)
    (name : Text.trim c.name = c.name) (plain : ∀ v ∈ c.verbs, PlainVerb v) : Filed (c.addTo g) := by
  have hold : Gathered.FiledAt ((g.get? c.key).getD ⟨c.resource, c.name, []⟩) c.key := by
    cases hg : g.get? c.key with
    | none => exact ⟨resource, rfl, name, List.Pairwise.nil, fun _ hv => (nomatch hv)⟩
    | some x => exact h.filed c.key x (Assoc.mem_of_get? hg)
  refine ⟨h.ascending.insert _ _, fun key x hx => ?_⟩
  rcases Assoc.mem_insert hx with hx | hx
  · cases hx
    refine ⟨hold.resource, hold.key, hold.name, ascending_addVerbs _ hold.ascending, fun v hv => ?_⟩
    exact (mem_addVerbs.1 hv).elim (hold.plain v) (plain v)
  · exact h.filed key x hx

theorem Filed.foldl : ∀ {cs : List Contribution} {g : Gathering}, Filed g →
    (∀ c ∈ cs, c.resource ∈ resourceTypes ∧ Text.trim c.name = c.name ∧ ∀ v ∈ c.verbs, PlainVerb v) →
    Filed (cs.foldl Contribution.addTo g)
  | [], _, h, _ => h
  | c :: _, _, h, hc => by
    rw [List.forall_mem_cons] at hc
    exact (h.addTo hc.1.1 hc.1.2.1 hc.1.2.2).foldl hc.2

theorem PolicyRule.Covers.trim {r : PolicyRule} {t : ResourceType} {n : String} (h : r.Covers t n) :
    Text.trim n = n := by
  rcases h.2 with ⟨name, -, rfl⟩ | ⟨rfl, -⟩
  · exact Text.trim_trim name
  · rfl

theorem Filed.gather {g g' : Gathering} (hg : Filed g) (h : gather g rules = .ok g') : Filed g' := by
  rw [gather_eq] at h
  cases hc : contributions rules with
  | error e => rw [hc] at h; cases h
  | ok cs =>
    rw [hc] at h
    cases h
    refine hg.foldl fun c hmem => ?_
    obtain ⟨ht, r, -, hcov, hverbs⟩ := (mem_contributions hc).1 hmem
    refine ⟨ht, hcov.trim, fun v hv => ?_⟩
    exact (PolicyRule.mem_plainVerbs.1 (hverbs ▸ hv)).plainVerb

end AccessGate.Rules
