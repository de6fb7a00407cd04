/-
Keys of rules. No group and no plural of the table has a slash in it, and no two types have the same
plural, so a key tells which type and which name it is for (`ruleKey_inj`), whatever the name is.
-/
import AccessGate.Rules.Normal

namespace AccessGate.Rules

/-! ## The table of types -/

theorem resourceTypes_slash : ∀ t ∈ resourceTypes,
    '/' ∉ (if t.group = "" then "core" else t.group).toList ∧ '/' ∉ t.plural.toList := by
  decide

theorem resourceTypes_plural : ∀ t ∈ resourceTypes, ∀ t' ∈ resourceTypes, t.plural = t'.plural → t = t' := by
  decide

theorem resourceTypes_plain : ∀ t ∈ resourceTypes, Text.toLower (Text.trim t.plural) = t.plural := by
  decide +kernel

theorem resourceTypes_singular : ∀ t ∈ resourceTypes, ∀ t' ∈ resourceTypes, t.singular = t'.singular → t = t' := by
  decide

section Find

variable {f : ResourceType → String} {name : String} {t : ResourceType}

/-- By what tells the types apart, each is found. -/
theorem find?_eq_some_iff (hf : ∀ t ∈ resourceTypes, ∀ t' ∈ resourceTypes, f t = f t' → t = t') :
    (resourceTypes.find? fun t => f t == name) = some t ↔ t ∈ resourceTypes ∧ f t = name := by
  constructor
  · intro h
    have hname := List.find?_some h
    exact ⟨List.mem_of_find?_eq_some h, eq_of_beq hname⟩
  · rintro ⟨ht, rfl⟩
    cases h : resourceTypes.find? fun t' => f t' == f t with
    | some t' =>
      have hname := List.find?_some h
      rw [hf t' (List.mem_of_find?_eq_some h) t ht (eq_of_beq hname)]
    | none => exact absurd (List.find?_eq_none.1 h t ht) (by simp)

theorem find?_eq_none_iff :
    (resourceTypes.find? fun t => f t == name) = none ↔ ∀ t ∈ resourceTypes, f t ≠ name := by
  simp only [List.find?_eq_none, beq_iff_eq, ne_eq]

end Find

/-- What is looked up with success is the type of that plural. -/
theorem lookup_eq_ok {name : String} {t : ResourceType} :
    lookup name = .ok t ↔ t ∈ resourceTypes ∧ t.plural = name := by
  rw [← find?_eq_some_iff resourceTypes_plural]
  unfold lookup
  cases resourceTypes.find? fun t => t.plural == name with
  | some t' => simp
  | none =>
    refine ⟨fun h => ?_, fun h => (nomatch h)⟩
    simp only at h
    split at h <;> cases h

/-- What is looked up without success is no plural; the error has the type that it is the singular of, if there is
one. -/
theorem lookup_eq_error {name : String} {e : RuleError} : lookup name = .error e ↔
    (∀ t ∈ resourceTypes, t.plural ≠ name) ∧
      ((∃ t ∈ resourceTypes, t.singular = name ∧ e = .singularResource name t.plural) ∨
        (∀ t ∈ resourceTypes, t.singular ≠ name) ∧ e = .unknownResource name) := by
  unfold lookup
  cases hp : resourceTypes.find? fun t => t.plural == name with
  | some t =>
    obtain ⟨ht, hname⟩ := (find?_eq_some_iff resourceTypes_plural).1 hp
    exact ⟨fun h => (nomatch h), fun h => absurd hname (h.1 t ht)⟩
  | none =>
    rw [and_iff_right (find?_eq_none_iff.1 hp)]
    cases hs : resourceTypes.find? fun t => t.singular == name with
    | some t =>
      obtain ⟨ht, hname⟩ := (find?_eq_some_iff resourceTypes_singular).1 hs
      constructor
      · rintro ⟨⟩
        exact .inl ⟨t, ht, hname, rfl⟩
      · rintro (⟨t', ht', hname', rfl⟩ | ⟨hnone, -⟩)
        · rw [resourceTypes_singular t' ht' t ht (hname'.trans hname.symm)]
        · exact absurd hname (hnone t ht)
    | none =>
      have hnone := find?_eq_none_iff.1 hs
      constructor
      · rintro ⟨⟩
        exact .inr ⟨hnone, rfl⟩
      · rintro (⟨t, ht, hname, -⟩ | ⟨-, rfl⟩)
        · exact absurd hname (hnone t ht)
        · rfl

/-! ## Keys -/

/-- The first slash of a text tells where the text before it ends. -/
theorem append_slash_inj {a a' b b' : List Char} (ha : '/' ∉ a) (ha' : '/' ∉ a')
    (h : a ++ '/' :: b = a' ++ '/' :: b') : a = a' ∧ b = b' := by
  rcases List.append_eq_append_iff.1 h with ⟨as, hx, hy⟩ | ⟨as, hx, hy⟩
  · cases as with
    | nil => exact ⟨by rw [hx, List.append_nil], (List.cons.inj hy).2⟩
    | cons c as =>
      cases (List.cons.inj hy).1
      exact absurd (hx ▸ List.mem_append_right a (List.mem_cons_self ..)) ha'
  · cases as with
    | nil => exact ⟨by rw [hx, List.append_nil], ((List.cons.inj hy).2).symm⟩
    | cons c as =>
      cases (List.cons.inj hy).1
      exact absurd (hx ▸ List.mem_append_right a' (List.mem_cons_self ..)) ha

theorem toList_ruleKey (group resource name : String) : (ruleKey group resource name).toList =
    (if group = "" then "core" else group).toList ++
      '/' :: (resource.toList ++ if name = "" then [] else '/' :: name.toList) := by
  unfold ruleKey
  by_cases hn : name = "" <;> simp [hn]

/-- Different types or names have different keys. -/
theorem ruleKey_inj {t t' : ResourceType} (ht : t ∈ resourceTypes) (ht' : t' ∈ resourceTypes) {n n' : String}
    (h : ruleKey t.group t.plural n = ruleKey t'.group t'.plural n') : t = t' ∧ n = n' := by
  obtain ⟨hgroup, hplural⟩ := resourceTypes_slash t ht
  obtain ⟨hgroup', hplural'⟩ := resourceTypes_slash t' ht'
  have h := congrArg String.toList h
  rw [toList_ruleKey, toList_ruleKey] at h
  obtain ⟨-, h⟩ := append_slash_inj hgroup hgroup' h
  have done (hp : t.plural.toList = t'.plural.toList) : t = t' :=
    resourceTypes_plural t ht t' ht' (String.toList_inj.1 hp)
  -- a key without a name ends with the plural, which has no slash
  by_cases hn : n = "" <;> by_cases hn' : n' = ""
  · rw [if_pos hn, if_pos hn', List.append_nil, List.append_nil] at h
    exact ⟨done h, hn.trans hn'.symm⟩
  · rw [if_pos hn, if_neg hn', List.append_nil] at h
    exact absurd (h ▸ List.mem_append_right _ (List.mem_cons_self ..)) hplural
  · rw [if_neg hn, if_pos hn', List.append_nil] at h
    exact absurd (h ▸ List.mem_append_right _ (List.mem_cons_self ..)) hplural'
  · rw [if_neg hn, if_neg hn'] at h
    obtain ⟨hp, hname⟩ := append_slash_inj hplural hplural' h
    exact ⟨done hp, String.toList_inj.1 hname⟩

end AccessGate.Rules
