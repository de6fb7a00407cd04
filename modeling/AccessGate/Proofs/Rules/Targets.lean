/-
What keys stand for. Types of the table and names have keys of their own, so what is filed under a key while rules are
gathered is of the one type and name that the key was made of. Main statement: no two targets share a key, and at any
moment of gathering, also if it ends with a fault, what is kept under a key has the type and the name of everything
that was contributed to it and of everything that still will be (`key_tells_target`).
-/
import AccessGate.Proofs.Rules.Faults

namespace AccessGate.Rules

/-! ## What is contributed -/

section Steps

variable {α β ε : Type} {f : α → Except ε (List β)}

/-- What steps that may fail give, one after the other, up to the first one that fails. -/
def upToFault (f : α → Except ε (List β)) : List α → List β
  | [] => []
  | a :: l =>
    match f a with
    | .ok bs => bs ++ upToFault f l
    | .error _ => []

theorem mem_upToFault {b : β} : ∀ {l : List α}, b ∈ upToFault f l → ∃ a ∈ l, ∃ bs, f a = .ok bs ∧ b ∈ bs
  | [], h => nomatch h
  | a :: l, h => by
    unfold upToFault at h
    cases ha : f a with
    | error e =>
      rw [ha] at h
      cases h
    | ok bs =>
      rw [ha] at h
      rcases List.mem_append.1 h with hb | hb
      · exact ⟨a, List.mem_cons_self .., bs, ha, hb⟩
      · obtain ⟨a', ha', h'⟩ := mem_upToFault hb
        exact ⟨a', List.mem_cons_of_mem _ ha', h'⟩

/-- Steps of which none fails give all that they do. -/
theorem upToFault_eq : ∀ {l : List α} {out : List β}, (l.mapM f).map List.flatten = .ok out → upToFault f l = out
  | [], out, h => by
    cases h
    rfl
  | a :: l, out, h => by
    obtain ⟨bs, rest, ha, hl, rfl⟩ := mapM_flatten_cons.1 h
    rw [upToFault, ha, ← upToFault_eq hl]

end Steps

/-- What is contributed while rules are gathered, in order, up to the first fault. -/
def contributed (rules : List PolicyRule) : List Contribution :=
  upToFault (fun p => p.1.contributionsFor p.2) (mentions rules)

/-- What is filed after contributions. -/
def gathered (cs : List Contribution) : Gathering :=
  cs.foldl Contribution.addTo []

variable {rules : List PolicyRule} {c : Contribution} {cs : List Contribution}

theorem contributed_eq (h : contributions rules = .ok cs) : contributed rules = cs := by
  rw [contributions_eq_mentions] at h
  exact upToFault_eq h

theorem gather_eq_gathered {g : Gathering} (h : gather [] rules = .ok g) : g = gathered (contributed rules) := by
  rw [gather_eq] at h
  obtain ⟨cs, hcs, rfl⟩ := map_eq_ok.1 h
  rw [contributed_eq hcs]
  rfl

/-- A contribution is for a type of the table, and has a trimmed name and plain verbs. -/
theorem plain_of_mem_contributed (h : c ∈ contributed rules) :
    c.resource ∈ resourceTypes ∧ Text.trim c.name = c.name ∧ ∀ v ∈ c.verbs, PlainVerb v := by
  obtain ⟨⟨r, resource⟩, -, cs, hcs, hc⟩ := mem_upToFault h
  obtain ⟨t, ht, hp, -, rfl⟩ := PolicyRule.contributionsFor_eq_ok.1 hcs
  obtain ⟨n, hn, rfl⟩ := List.mem_map.1 hc
  refine ⟨ht, ?_, ?_⟩
  · rcases PolicyRule.mem_targetNames.1 hn with ⟨name, -, rfl⟩ | ⟨rfl, -⟩
    · exact Text.trim_trim name
    · rfl
  · intro v hv
    exact (PolicyRule.mem_plainVerbs.1 hv).plainVerb

/-! ## What is kept under a key -/

theorem mem_keys_foldl_addTo {key : String} : ∀ {cs : List Contribution} {g : Gathering},
    key ∈ (cs.foldl Contribution.addTo g).keys ↔ key ∈ g.keys ∨ ∃ c ∈ cs, c.key = key
  | [], g => by simp
  | c :: cs, g => by
    have hkey : key ∈ (c.addTo g).keys ↔ key = c.key ∨ key ∈ g.keys := Assoc.mem_keys_insert
    rw [List.foldl_cons, mem_keys_foldl_addTo, hkey]
    simp only [List.mem_cons, or_and_right, exists_or, exists_eq_left]
    rw [or_assoc, or_left_comm, eq_comm]

/-- What is kept under the key of a contribution is for its type and name. -/
theorem Filed.target_eq {g : Gathering} (h : Filed g) (hc : c.resource ∈ resourceTypes) {x : Gathered}
    (hx : g.get? c.key = some x) : x.resource = c.resource ∧ x.name = c.name := by
  have hfiled := h.filed c.key x (Assoc.mem_of_get? hx)
  exact ruleKey_inj hfiled.resource hc hfiled.key.symm

/-- Types of the table and names have the same key only if they are the same, whatever the names are. So when rules are
gathered, at first or into what was gathered from others, the type and the name that are kept under a key from the
first contribution to it on are those of every contribution to it: of each that was made, at any moment, and of each
that is still to be made before the end or a fault. -/
theorem key_tells_target :
    (∀ t ∈ resourceTypes, ∀ t' ∈ resourceTypes, ∀ n n' : String,
      ruleKey t.group t.plural n = ruleKey t'.group t'.plural n' ↔ t = t' ∧ n = n') ∧
    (∀ (kept rules : List PolicyRule) (g g' : Gathering), gather [] kept = .ok g → gather g rules = .ok g' →
      g' = gathered (contributed (kept ++ rules))) ∧
    ∀ (rules : List PolicyRule) (made rest : List Contribution), contributed rules = made ++ rest →
      (∀ c ∈ made, ∃ x, (gathered made).get? c.key = some x ∧ x.resource = c.resource ∧ x.name = c.name) ∧
      ∀ c ∈ rest, ∀ x, (gathered made).get? c.key = some x → x.resource = c.resource ∧ x.name = c.name := by
  refine ⟨?_, ?_, ?_⟩
  · intro t ht t' ht' n n'
    constructor
    · exact ruleKey_inj ht ht'
    · rintro ⟨rfl, rfl⟩
      rfl
  · intro kept rules g g' hg hg'
    apply gather_eq_gathered
    rw [gather_append, hg]
    exact hg'
  · intro rules made rest hsplit
    have hplain : ∀ c ∈ made ++ rest,
        c.resource ∈ resourceTypes ∧ Text.trim c.name = c.name ∧ ∀ v ∈ c.verbs, PlainVerb v := by
      intro c hc
      rw [← hsplit] at hc
      exact plain_of_mem_contributed hc
    -- what was filed is under the key of its own type and name at any moment
    have hfiled : Filed (gathered made) := filed_nil.foldl fun c hc => hplain c (List.mem_append_left _ hc)
    constructor
    · intro c hc
      have hkey : c.key ∈ (gathered made).keys := mem_keys_foldl_addTo.2 (.inr ⟨c, hc, rfl⟩)
      obtain ⟨x, hx⟩ := Option.isSome_iff_exists.1 (Assoc.has_iff.2 hkey)
      exact ⟨x, hx, hfiled.target_eq (hplain c (List.mem_append_left _ hc)).1 hx⟩
    · intro c hc x hx
      exact hfiled.target_eq (hplain c (List.mem_append_right _ hc)).1 hx

/-- Names with slashes, two of them keys of other rules, and a fault after a verb more for the first. -/
def slashedRules : List PolicyRule :=
  [ { resources := some ["secrets", "stages"], resourceNames := some ["core/secrets", " core "], verbs := ["get"] },
    { resources := some ["Secrets", "pods"], resourceNames := some ["core/secrets"], verbs := ["list"] } ]

/-- The last contribution before the fault finds the first one's type and name under their key, and none of the four
targets shares a key with another. -/
theorem slashedRules_kept :
    let secrets : ResourceType := ⟨"secrets", "secret", coreGroup, []⟩
    let made : List Contribution := [⟨secrets, "core/secrets", ["get"]⟩, ⟨secrets, "core", ["get"]⟩,
      ⟨stages, "core/secrets", ["get"]⟩, ⟨stages, "core", ["get"]⟩]
    let last : Contribution := ⟨secrets, "core/secrets", ["list"]⟩
    contributed slashedRules = made ++ [last] ∧
      (gathered made).get? last.key = some ⟨secrets, "core/secrets", [("get", ())]⟩ ∧
      (∀ x, (gathered made).get? last.key = some x → x.resource = last.resource ∧ x.name = last.name) ∧
      ruleKey secrets.group secrets.plural "core/secrets" ≠ ruleKey stages.group stages.plural "core" := by
  intro secrets made last
  obtain ⟨hkeys, -, hkept⟩ := key_tells_target
  have hmade : contributed slashedRules = made ++ [last] := rfl
  have hsecrets : secrets ∈ resourceTypes := by decide
  have hstages : stages ∈ resourceTypes := by decide
  refine ⟨hmade, by decide, ?_, ?_⟩
  · exact (hkept slashedRules made [last] hmade).2 last (List.mem_singleton_self _)
  · rw [ne_eq, hkeys secrets hsecrets stages hstages]
    decide

end AccessGate.Rules
