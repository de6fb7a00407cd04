/-
Merging rules into a normal form. A normal form lists exactly what it gives (`Normal.listed_iff`), so a merge
gives the old verbs and the new ones, but where the new rules list the wildcard, only what that stands for
(`gives_merge`). Two consequences: when merging is the same as building from all rules at once
(`merge_build_agree_iff`), and which verbs a merge keeps (`merge_keeps_iff`).
-/
import AccessGate.Proofs.Rules.Grants

namespace AccessGate.Rules

/-! ## A normal form as rules -/

section NormalAt

variable {t : ResourceType} {n key : String} {r : PolicyRule}

theorem NormalAt.resources (h : NormalAt t n key r) : r.resources.getD [] = [t.plural] := by
  rw [h.rule]
  rfl

theorem NormalAt.resourceNames (h : NormalAt t n key r) :
    r.resourceNames.getD [] = if n = "" then [] else [n] := by
  rw [h.rule]
  unfold normalRule
  by_cases hn : n = "" <;> simp [hn]

theorem NormalAt.valid (h : NormalAt t n key r) : r.Valid := by
  intro resource hres
  rw [h.resources, List.mem_singleton] at hres
  refine ⟨⟨t, h.resource, by rw [hres, resourceTypes_plain t h.resource]⟩, fun name hname => ?_⟩
  rw [h.resourceNames] at hname
  split at hname
  · cases hname
  · rename_i hn
    rw [List.mem_singleton.1 hname, h.name]
    exact hn

theorem NormalAt.lists_iff (h : NormalAt t n key r) {t' : ResourceType} (ht' : t' ∈ resourceTypes) :
    r.Lists t' ↔ t' = t := by
  unfold PolicyRule.Lists
  rw [h.resources]
  simp only [List.mem_singleton, exists_eq_left, resourceTypes_plain t h.resource]
  exact ⟨fun hp => resourceTypes_plural t' ht' t h.resource hp.symm, fun he => he ▸ rfl⟩

theorem NormalAt.covers_iff (h : NormalAt t n key r) {t' : ResourceType} (ht' : t' ∈ resourceTypes) {n' : String} :
    r.Covers t' n' ↔ t' = t ∧ n' = n := by
  unfold PolicyRule.Covers
  rw [h.lists_iff ht', h.resourceNames]
  refine and_congr_right fun _ => ?_
  by_cases hn : n = ""
  · simp [hn]
  · simp [hn, h.name, eq_comm]

theorem NormalAt.listsVerb_iff (h : NormalAt t n key r) {v : String} : r.ListsVerb v ↔ v ∈ r.verbs := by
  unfold PolicyRule.ListsVerb
  constructor
  · rintro ⟨-, w, hw, rfl⟩
    rw [(h.plain w hw).1.plain]
    exact hw
  · exact fun hv => ⟨(h.plain v hv).1.nonempty, v, hv, (h.plain v hv).1.plain⟩

end NormalAt

namespace NormalRules.Normal

variable {m m' : NormalRules} {t : ResourceType} {n v : String}

theorem gives_iff (h : m.Normal) (ht : t ∈ resourceTypes) :
    m.Gives t n v ↔ ∃ key r, (key, r) ∈ m ∧ NormalAt t n key r ∧ v ∈ r.verbs := by
  constructor
  · rintro ⟨verbs, hm, hv⟩
    obtain ⟨t', n', hat⟩ := h.entry _ _ hm
    obtain ⟨rfl, rfl⟩ := ruleKey_inj ht hat.resource hat.key
    exact ⟨_, _, hm, hat, hv⟩
  · rintro ⟨key, r, hm, hat, hv⟩
    rw [hat.key, hat.rule] at hm
    exact ⟨r.verbs, hm, hv⟩

/-- A normal form lists what it gives. -/
theorem listed_iff (h : m.Normal) (ht : t ∈ resourceTypes) : Listed m.values t n v ↔ m.Gives t n v := by
  rw [h.gives_iff ht]
  constructor
  · rintro ⟨r, hr, hcov, hv⟩
    obtain ⟨⟨key, _⟩, hm, rfl⟩ := List.mem_map.1 hr
    obtain ⟨t', n', hat⟩ := h.entry _ _ hm
    obtain ⟨rfl, rfl⟩ := (hat.covers_iff ht).1 hcov
    exact ⟨key, _, hm, hat, hat.listsVerb_iff.1 hv⟩
  · rintro ⟨key, r, hm, hat, hv⟩
    exact ⟨r, List.mem_map.2 ⟨(key, r), hm, rfl⟩, (hat.covers_iff ht).2 ⟨rfl, rfl⟩, hat.listsVerb_iff.2 hv⟩

theorem valid (h : m.Normal) : ∀ r ∈ m.values, r.Valid := by
  intro r hr
  obtain ⟨⟨key, _⟩, hm, rfl⟩ := List.mem_map.1 hr
  obtain ⟨t, n, hat⟩ := h.entry _ _ hm
  exact hat.valid

/-- The wildcard itself is never given. -/
theorem not_gives_wildcard (h : m.Normal) (ht : t ∈ resourceTypes) : ¬ m.Gives t n wildcardVerb := by
  rw [h.gives_iff ht]
  rintro ⟨key, r, -, hat, hv⟩
  exact (hat.plain _ hv).2 rfl

theorem gives_iff_of_mem (h : m.Normal) {key : String} {r : PolicyRule} (hr : (key, r) ∈ m)
    (hat : NormalAt t n key r) : m.Gives t n v ↔ v ∈ r.verbs := by
  rw [h.gives_iff hat.resource]
  constructor
  · rintro ⟨key', r', hr', hat', hv⟩
    rw [hat'.key, ← hat.key] at hr'
    cases (h.ascending.get?_of_mem hr).symm.trans (h.ascending.get?_of_mem hr')
    exact hv
  · exact fun hv => ⟨key, r, hr, hat, hv⟩

theorem mem_of_gives_iff (h : m.Normal) (h' : m'.Normal)
    (heq : ∀ t ∈ resourceTypes, ∀ n v, m.Gives t n v ↔ m'.Gives t n v) {key : String} {r : PolicyRule}
    (hr : (key, r) ∈ m) : (key, r) ∈ m' := by
  obtain ⟨t, n, hat⟩ := h.entry _ _ hr
  have hgives : ∀ v, v ∈ r.verbs ↔ m'.Gives t n v := fun v =>
    (h.gives_iff_of_mem hr hat).symm.trans (heq t hat.resource n v)
  obtain ⟨v, hv⟩ := List.exists_mem_of_ne_nil _ hat.nonempty
  obtain ⟨key', r', hr', hat', -⟩ := (h'.gives_iff hat.resource).1 ((hgives v).1 hv)
  have hkey : key = key' := hat.key.trans hat'.key.symm
  have hverbs : r.verbs = r'.verbs := Assoc.eq_of_ascending id hat.ascending hat'.ascending fun v =>
    (hgives v).trans (h'.gives_iff_of_mem hr' hat')
  rw [hkey, hat.rule, hverbs, ← hat'.rule]
  exact hr'

/-- A normal form is known by what it gives. -/
theorem ext (h : m.Normal) (h' : m'.Normal)
    (heq : ∀ t ∈ resourceTypes, ∀ n v, m.Gives t n v ↔ m'.Gives t n v) : m = m' :=
  h.ascending.ext h'.ascending fun _ _ =>
    ⟨h.mem_of_gives_iff h' heq, h'.mem_of_gives_iff h fun t ht n v => (heq t ht n v).symm⟩

end NormalRules.Normal

/-! ## What a merge gives -/

variable {o o' : Options} {rules rules' : List PolicyRule} {m m' : NormalRules} {t : ResourceType} {n v : String}

theorem listed_append : Listed (rules ++ rules') t n v ↔ Listed rules t n v ∨ Listed rules' t n v := by
  unfold Listed
  simp only [List.mem_append, or_and_right, exists_or]

theorem merge_ok_iff (h : m.Normal) : (∃ m', merge o m rules = .ok m') ↔ ∀ r ∈ rules, r.Valid := by
  rw [merge_eq_build, build_ok_iff]
  simp only [List.forall_mem_append]
  exact and_iff_right h.valid

/-- A merge gives what was given and what is listed; but where the wildcard is listed, what that stands for. -/
theorem gives_merge (hm : m.Normal) (h : merge o m rules = .ok m') (ht : t ∈ resourceTypes) :
    m'.Gives t n v ↔ Listed rules t n wildcardVerb ∧ t.Expands o v ∨
      ¬ Listed rules t n wildcardVerb ∧ (m.Gives t n v ∨ Listed rules t n v) := by
  rw [merge_eq_build] at h
  rw [gives_build h ht, Granted]
  simp only [listed_append, hm.listed_iff ht, hm.not_gives_wildcard ht, false_or]

theorem normal_merge (h : merge o m rules = .ok m') : m'.Normal := by
  rw [merge_eq_build] at h
  exact normal_build h

/-- On one name of a type, merging into the normal form of rules gives a verb that building from all rules does
not if the old rules list the wildcard there, the new ones do not, and they list that verb although the wildcard
does not stand for it. -/
theorem gives_merge_build (h : build o rules = .ok m) (hmerged : merge o m rules' = .ok m')
    {together : NormalRules} (htogether : build o (rules ++ rules') = .ok together) (ht : t ∈ resourceTypes) :
    m'.Gives t n v ↔ together.Gives t n v ∨
      Listed rules t n wildcardVerb ∧ ¬ Listed rules' t n wildcardVerb ∧ Listed rules' t n v ∧ ¬ t.Expands o v := by
  rw [gives_merge (normal_build h) hmerged ht, gives_build h ht, gives_build htogether ht]
  unfold Granted
  rw [listed_append, listed_append]
  by_cases hold : Listed rules t n wildcardVerb <;> by_cases hnew : Listed rules' t n wildcardVerb
  · simp [hold, hnew]
  · by_cases hv : t.Expands o v <;> simp [hold, hnew, hv]
  · simp [hold, hnew]
  · simp [hold, hnew]

/-- Merging into the normal form of rules succeeds when building from all of them does. It gives all that this
gives, and the two agree if and only if the new rules list no verb on a name of a type where the old ones, and
not the new ones, list the wildcard, but one that the wildcard stands for. -/
theorem merge_build_agree_iff (h : build o rules = .ok m) :
    ((∃ m', merge o m rules' = .ok m') ↔ ∃ m', build o (rules ++ rules') = .ok m') ∧
    ∀ merged together, merge o m rules' = .ok merged → build o (rules ++ rules') = .ok together →
      (∀ t ∈ resourceTypes, ∀ n v, together.Gives t n v → merged.Gives t n v) ∧
      (merged = together ↔ ∀ t ∈ resourceTypes, ∀ n v, Listed rules t n wildcardVerb →
        ¬ Listed rules' t n wildcardVerb → Listed rules' t n v → t.Expands o v) := by
  refine ⟨?_, fun merged together hmerged htogether => ⟨fun t ht n v hv => ?_, fun he t ht n v hold hnew hv => ?_,
    fun hagree => ?_⟩⟩
  · rw [merge_ok_iff (normal_build h), build_ok_iff]
    simp only [List.forall_mem_append]
    exact (and_iff_right (build_ok_iff.1 ⟨m, h⟩)).symm
  · exact (gives_merge_build h hmerged htogether ht).2 (.inl hv)
  · -- what is merged has the verb, and together the wildcard replaces it
    have hgives := (gives_merge (normal_build h) hmerged ht (n := n) (v := v)).2 (.inr ⟨hnew, .inr hv⟩)
    rw [he, gives_build htogether ht] at hgives
    rcases hgives with ⟨-, hexp⟩ | ⟨hnone, -⟩
    · exact hexp
    · exact absurd (listed_append.2 (.inl hold)) hnone
  · refine (normal_merge hmerged).ext (normal_build htogether) fun t ht n v => ?_
    rw [gives_merge_build h hmerged htogether ht]
    exact or_iff_left fun ⟨hold, hnew, hv, hexp⟩ => hexp (hagree t ht n v hold hnew hv)

/-! ### A wildcard on stages, and the verb that only stages have -/

def allStageVerbs : PolicyRule :=
  normalRule stages "" ["*"]

def ownStageVerb : PolicyRule :=
  normalRule stages "" ["promote"]

def stagesKey : String :=
  ruleKey stages.group stages.plural ""

theorem normalAt_ownStageVerb : NormalAt stages "" stagesKey ownStageVerb where
  resource := by decide
  name := by decide
  key := rfl
  rule := rfl
  nonempty := by decide
  ascending := by decide
  plain := fun v hv => by
    cases List.mem_singleton.1 hv
    exact ⟨⟨by decide, by decide +kernel⟩, by decide⟩

theorem listed_ownStageVerb (ht : t ∈ resourceTypes) (h : Listed [ownStageVerb] t n v) :
    t = stages ∧ v = "promote" := by
  obtain ⟨r, hr, hcov, hv⟩ := h
  cases List.mem_singleton.1 hr
  exact ⟨((normalAt_ownStageVerb.covers_iff ht).1 hcov).1,
    List.mem_singleton.1 (normalAt_ownStageVerb.listsVerb_iff.1 hv)⟩

/-- Where the wildcard stands for the verb too, merging and building agree. -/
theorem merge_own_verb_agrees :
    let m : NormalRules := [(stagesKey, normalRule stages "" (stages.expandWildcard true))]
    build ⟨true⟩ [allStageVerbs] = .ok m ∧ merge ⟨true⟩ m [ownStageVerb] = .ok m ∧
      build ⟨true⟩ ([allStageVerbs] ++ [ownStageVerb]) = .ok m := by
  intro m
  have h : build ⟨true⟩ [allStageVerbs] = .ok m := rfl
  obtain ⟨merged, hmerged⟩ : ∃ m', merge ⟨true⟩ m [ownStageVerb] = .ok m' := ⟨_, rfl⟩
  have htogether : build ⟨true⟩ ([allStageVerbs] ++ [ownStageVerb]) = .ok m := rfl
  have hagree := ((merge_build_agree_iff h).2 merged m hmerged htogether).2.2 fun t ht n v _ _ hv => by
    obtain ⟨rfl, rfl⟩ := listed_ownStageVerb ht hv
    exact .inr ⟨rfl, by decide⟩
  exact ⟨h, hagree ▸ hmerged, htogether⟩

/-- Where the wildcard does not stand for the verb, merging gives it, and building does not. -/
theorem merge_own_verb_differs :
    let base : NormalRules := [(stagesKey, normalRule stages "" baseVerbs)]
    let more : NormalRules := [(stagesKey, normalRule stages "" (stages.expandWildcard true))]
    build {} [allStageVerbs] = .ok base ∧ merge {} base [ownStageVerb] = .ok more ∧
      build {} ([allStageVerbs] ++ [ownStageVerb]) = .ok base ∧ more ≠ base :=
  ⟨rfl, rfl, rfl, by decide⟩

/-! ## What a merge keeps -/

/-- A merge keeps what a normal form gives, but where the new rules list the wildcard: there it keeps what that
stands for. -/
theorem merge_keeps_iff (h : build o rules = .ok m) (hmerge : merge o' m rules' = .ok m') (ht : t ∈ resourceTypes)
    (hv : m.Gives t n v) : m'.Gives t n v ↔ (Listed rules' t n wildcardVerb → t.Expands o' v) := by
  rw [gives_merge (normal_build h) hmerge ht]
  by_cases hnew : Listed rules' t n wildcardVerb
  · simp [hnew]
  · simp [hnew, hv]

/-- A wildcard that stands for the verb keeps it. -/
theorem merge_wildcard_keeps_own_verb :
    let own : NormalRules := [(stagesKey, normalRule stages "" ["promote"])]
    let all : NormalRules := [(stagesKey, normalRule stages "" (stages.expandWildcard true))]
    build {} [ownStageVerb] = .ok own ∧ merge ⟨true⟩ own [allStageVerbs] = .ok all ∧
      own.Gives stages "" "promote" ∧ all.Gives stages "" "promote" := by
  intro own all
  have h : build {} [ownStageVerb] = .ok own := rfl
  have hmerge : merge ⟨true⟩ own [allStageVerbs] = .ok all := rfl
  have hv : own.Gives stages "" "promote" := ⟨_, List.mem_singleton_self _, List.mem_singleton_self _⟩
  exact ⟨h, hmerge, hv, (merge_keeps_iff h hmerge (by decide) hv).2 fun _ => .inr ⟨rfl, by decide⟩⟩

/-- A wildcard that does not stand for the verb takes it away. -/
theorem merge_wildcard_takes_own_verb :
    let own : NormalRules := [(stagesKey, normalRule stages "" ["promote"])]
    let base : NormalRules := [(stagesKey, normalRule stages "" baseVerbs)]
    build {} [ownStageVerb] = .ok own ∧ merge {} own [allStageVerbs] = .ok base ∧
      own.Gives stages "" "promote" ∧ ¬ base.Gives stages "" "promote" := by
  refine ⟨rfl, rfl, ⟨_, List.mem_singleton_self _, List.mem_singleton_self _⟩, ?_⟩
  rintro ⟨verbs, hm, hv⟩
  have hverbs : verbs = baseVerbs := congrArg (fun b => b.2.verbs) (List.mem_singleton.1 hm)
  rw [hverbs] at hv
  exact absurd hv (by decide)

end AccessGate.Rules
