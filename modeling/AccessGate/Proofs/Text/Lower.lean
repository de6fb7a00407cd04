/-
Text that is trimmed and put in lower case stays as it is when that is done again. What the case table
gives is nowhere a character that it maps on (`held_image`, a check of all pairs of its runs), and it is
no white space, so neither of the two undoes the other (`toLower_trim_toLower_trim`).
-/
import AccessGate.Text.Blank
import AccessGate.Text.Case

namespace AccessGate.Text

/-! ## Runs of the case table -/

namespace CaseRun

/-- Whether a code point is one that a run maps. -/
def Holds (r : CaseRun) (n : Nat) : Prop :=
  r.first ≤ n ∧ n ≤ r.last ∧ (n - r.first) % r.step = 0

instance (r : CaseRun) (n : Nat) : Decidable (r.Holds n) :=
  inferInstanceAs (Decidable (_ ∧ _ ∧ _))

/-- The code point that a run maps one of its own to. -/
def map (r : CaseRun) (n : Nat) : Nat :=
  ((n : Int) + r.shift).toNat

/-- The code points that a run maps to, as a run. -/
def image (r : CaseRun) : CaseRun :=
  ⟨r.map r.first, r.map r.last, r.step, 0⟩

/-- Whether two runs have no code point in common, as can be told from their ends, or from the remainders
of the first one's code points by the step of the other. -/
def isApart (r r' : CaseRun) : Bool :=
  Nat.blt r.last r'.first || (Nat.blt r'.last r.first ||
    ((r.first == r.last || r.step % r'.step == 0) && (r.first - r'.first) % r'.step != 0))

theorem not_holds_of_isApart {r r' : CaseRun} {n : Nat} (h : r.isApart r' = true) (hn : r.Holds n) :
    ¬ r'.Holds n := by
  rintro ⟨hlo, hhi, hmod⟩
  obtain ⟨hlo', hhi', hmod'⟩ := hn
  simp only [isApart, Nat.blt_eq, Bool.or_eq_true, Bool.and_eq_true, beq_iff_eq, bne_iff_ne] at h
  rcases h with h | h | ⟨hstep, hne⟩
  · omega
  · omega
  · -- both remainders are that of the first code point
    have hfirst : r'.first < r.first := by
      refine Nat.lt_of_not_le fun hle => hne ?_
      rw [Nat.sub_eq_zero_of_le hle, Nat.zero_mod]
    rcases hstep with hstep | hstep
    · have : n = r.first := by omega
      exact hne (this ▸ hmod)
    · obtain ⟨k, hk⟩ := Nat.dvd_of_mod_eq_zero hmod'
      obtain ⟨j, hj⟩ := Nat.dvd_of_mod_eq_zero hstep
      have : n - r'.first = (r.first - r'.first) + r'.step * (j * k) := by
        rw [← Nat.mul_assoc, ← hj, ← hk]
        omega
      rw [this, Nat.add_mul_mod_self_left] at hmod
      exact hne hmod

theorem image_holds {r : CaseRun} {n : Nat} (hpos : 0 ≤ (r.first : Int) + r.shift) (h : r.Holds n) :
    r.image.Holds (r.map n) := by
  obtain ⟨hlo, hhi, hmod⟩ := h
  refine ⟨?_, ?_, ?_⟩
  · simp only [image, map]; omega
  · simp only [image, map]; omega
  · have : r.map n - r.map r.first = n - r.first := by
      simp only [map]; omega
    simp only [image, this, hmod]

end CaseRun

theorem mapByRuns_cases (table : Array CaseRun) (n : Nat) :
    mapByRuns table n = n ∨ ∃ r ∈ table.toList, r.Holds n ∧ mapByRuns table n = r.map n := by
  unfold mapByRuns
  cases h : table.find? fun r => r.first ≤ n && n ≤ r.last && (n - r.first) % r.step == 0 with
  | none => exact .inl rfl
  | some r =>
    rw [← Array.find?_toList] at h
    have hr := List.find?_some h
    simp only [Bool.and_eq_true, decide_eq_true_eq, beq_iff_eq] at hr
    exact .inr ⟨r, List.mem_of_find?_eq_some h, ⟨hr.1.1, hr.1.2, hr.2⟩, rfl⟩

theorem mapByRuns_of_not_holds {table : Array CaseRun} {n : Nat} (h : ∀ r ∈ table.toList, ¬ r.Holds n) :
    mapByRuns table n = n := by
  rcases mapByRuns_cases table n with hn | ⟨r, hr, hn, -⟩
  · exact hn
  · exact absurd hn (h r hr)

/-! ## White space -/

/-- White space as runs of code points. -/
def blankRuns : List CaseRun :=
  [⟨9, 13, 1, 0⟩, ⟨32, 32, 1, 0⟩, ⟨0x85, 0x85, 1, 0⟩, ⟨0xA0, 0xA0, 1, 0⟩, ⟨0x1680, 0x1680, 1, 0⟩,
    ⟨0x2000, 0x200A, 1, 0⟩, ⟨0x2028, 0x2029, 1, 0⟩, ⟨0x202F, 0x202F, 1, 0⟩, ⟨0x205F, 0x205F, 1, 0⟩,
    ⟨0x3000, 0x3000, 1, 0⟩]

theorem isBlank_eq_true {c : Char} (h : isBlank c = true) : ∃ r ∈ blankRuns, r.Holds c.toNat := by
  simp only [isBlank, Bool.or_eq_true, Bool.and_eq_true, decide_eq_true_eq, beq_iff_eq] at h
  simp only [blankRuns, CaseRun.Holds, List.mem_cons, List.not_mem_nil, or_false, exists_eq_or_imp,
    exists_eq_left, Nat.mod_one, and_true]
  omega

/-! ## Characters that lower case leaves alone -/

/-- Whether lower case leaves a character alone wherever it stands. -/
structure Settled (c : Char) : Prop where
  notSigma : c.toNat ≠ 0x3A3
  fixed : lowerChar c = [c]

/-- The code points that nothing is mapped to: those that are mapped on, and white space. -/
def unsettledRuns : List CaseRun :=
  lowerRuns.toList ++ ⟨0x130, 0x130, 1, 0⟩ :: blankRuns

/-- Every run maps its code points to such that no run maps on and that are no white space. -/
theorem image_isApart :
    (lowerRuns.toList.map CaseRun.image).all (fun i => unsettledRuns.all i.isApart) = true := by
  decide +kernel

theorem first_add_shift_nonneg : ∀ r ∈ lowerRuns.toList, 0 ≤ (r.first : Int) + r.shift := by
  decide +kernel

theorem not_holds_image {r r' : CaseRun} {n : Nat} (hr : r ∈ lowerRuns.toList) (hn : r.Holds n)
    (hr' : r' ∈ unsettledRuns) : ¬ r'.Holds (r.map n) := by
  have hall := List.all_eq_true.1 (List.all_eq_true.1 image_isApart _ (List.mem_map_of_mem hr)) _ hr'
  exact CaseRun.not_holds_of_isApart hall (CaseRun.image_holds (first_add_shift_nonneg r hr) hn)

theorem toNat_ofNat {n : Nat} (h : n.isValidChar) : (Char.ofNat n).toNat = n := by
  unfold Char.ofNat
  rw [dif_pos h]
  rfl

theorem ascii_toLower (c : Char) (h : c.toNat < 128) : c.toLower.toNat < 128 ∧
    c.toLower.toLower = c.toLower ∧ (isBlank c = false → isBlank c.toLower = false) := by
  have all : ∀ n : Fin 128, (Char.ofNat n).toLower.toNat < 128 ∧
      (Char.ofNat n).toLower.toLower = (Char.ofNat n).toLower ∧
      (isBlank (Char.ofNat n) = false → isBlank (Char.ofNat n).toLower = false) := by decide +kernel
  have := all ⟨c.toNat, h⟩
  rwa [Char.ofNat_toNat] at this

theorem ofNat_of_not_valid {n : Nat} (h : ¬ n.isValidChar) : Char.ofNat n = Char.ofNat 0 := by
  unfold Char.ofNat
  rw [dif_neg h]
  rfl

/-- A code point of no run is settled, unless it is no character at all. -/
theorem settled_of_not_holds {m : Nat} (h : ∀ r ∈ unsettledRuns, ¬ r.Holds m) : Settled (Char.ofNat m) := by
  by_cases hv : m.isValidChar
  · have hm : (Char.ofNat m).toNat = m := toNat_ofNat hv
    have hmap : mapByRuns lowerRuns m = m := mapByRuns_of_not_holds fun r hr => h r (List.mem_append_left _ hr)
    have hdot : m ≠ 0x130 := by
      rintro rfl
      exact h ⟨0x130, 0x130, 1, 0⟩ (List.mem_append_right _ (List.mem_cons_self ..))
        ⟨Nat.le_refl _, Nat.le_refl _, rfl⟩
    have hsigma : m ≠ 0x3A3 := by
      rintro rfl
      exact absurd hmap (by decide +kernel)
    refine ⟨by rw [hm]; exact hsigma, ?_⟩
    by_cases hascii : m < 128
    · have hupper : ¬ (0x41 ≤ m ∧ m ≤ 0x5A) := fun hu =>
        h ⟨0x41, 0x5A, 1, 32⟩ (List.mem_append_left _ (List.mem_cons_self ..)) ⟨hu.1, hu.2, Nat.mod_one _⟩
      have hlow : ∀ n : Fin 128, ¬ (0x41 ≤ n.val ∧ n.val ≤ 0x5A) → (Char.ofNat n).toLower = Char.ofNat n := by
        decide +kernel
      simp only [lowerChar, hm, if_pos hascii, hlow ⟨m, hascii⟩ hupper]
    · simp only [lowerChar, hm, if_neg hascii, if_neg hdot, hmap]
  · rw [ofNat_of_not_valid hv]
    exact ⟨by decide, by decide⟩

/-! ## What lower case consists of -/

/-- Whether characters may be the lower case of one: they are settled, and white space only if it is. -/
structure LowerOf (c : Char) (image : List Char) : Prop where
  nonempty : image ≠ []
  settled : ∀ d ∈ image, Settled d
  blank : isBlank c = false → ∀ d ∈ image, isBlank d = false

theorem LowerOf.single {c d : Char} (h : Settled d) (hb : isBlank c = false → isBlank d = false) :
    LowerOf c [d] :=
  ⟨List.cons_ne_nil _ _, fun _ he => List.mem_singleton.1 he ▸ h,
    fun hc _ he => List.mem_singleton.1 he ▸ hb hc⟩

theorem ofNat_not_blank {m : Nat} (h : ∀ r ∈ unsettledRuns, ¬ r.Holds m) : isBlank (Char.ofNat m) = false := by
  rw [← Bool.not_eq_true]
  intro hb
  by_cases hv : m.isValidChar
  · obtain ⟨r, hr, hm⟩ := isBlank_eq_true hb
    rw [toNat_ofNat hv] at hm
    exact h r (List.mem_append_right _ (List.mem_cons_of_mem _ hr)) hm
  · rw [ofNat_of_not_valid hv] at hb
    exact absurd hb (by decide)

theorem lowerOf_lowerChar {c : Char} (hc : c.toNat ≠ 0x3A3) : LowerOf c (lowerChar c) := by
  by_cases h128 : c.toNat < 128
  · obtain ⟨hlt, hlow, hb⟩ := ascii_toLower c h128
    rw [lowerChar, if_pos h128]
    exact .single ⟨by omega, by rw [lowerChar, if_pos hlt, hlow]⟩ hb
  by_cases hdot : c.toNat = 0x130
  · rw [lowerChar, if_neg h128, if_pos hdot]
    refine ⟨List.cons_ne_nil _ _, ?_, fun _ => ?_⟩ <;> rw [List.forall_mem_cons, List.forall_mem_singleton]
    · exact ⟨⟨by decide, by decide⟩, settled_of_not_holds (by decide +kernel)⟩
    · exact ⟨by decide, by decide⟩
  rw [lowerChar, if_neg h128, if_neg hdot]
  rcases mapByRuns_cases lowerRuns c.toNat with h | ⟨r, hr, hn, h⟩
  · rw [h, Char.ofNat_toNat]
    refine .single ⟨hc, ?_⟩ id
    rw [lowerChar, if_neg h128, if_neg hdot, h, Char.ofNat_toNat]
  · rw [h]
    exact .single (settled_of_not_holds fun r' hr' => not_holds_image hr hn hr')
      fun _ => ofNat_not_blank fun r' hr' => not_holds_image hr hn hr'

/-- Lower case goes character by character; the small sigmas are settled too. -/
theorem lowerChars_cons (before : List Char) (c : Char) (rest : List Char) :
    ∃ image, lowerChars before (c :: rest) = image ++ lowerChars (c :: before) rest ∧ LowerOf c image := by
  refine ⟨_, rfl, ?_⟩
  split
  · split
    · exact .single (settled_of_not_holds (by decide +kernel)) fun _ => by decide
    · exact .single (settled_of_not_holds (by decide +kernel)) fun _ => by decide
  · rename_i hc
    exact lowerOf_lowerChar hc

theorem settled_of_mem_lowerChars {d : Char} :
    ∀ {cs before : List Char}, d ∈ lowerChars before cs → Settled d
  | [], _, h => by cases h
  | c :: cs, before, h => by
    obtain ⟨image, he, hl⟩ := lowerChars_cons before c cs
    rw [he] at h
    rcases List.mem_append.1 h with h | h
    · exact hl.settled d h
    · exact settled_of_mem_lowerChars h

theorem lowerChars_of_settled :
    ∀ {cs : List Char} (before : List Char), (∀ c ∈ cs, Settled c) → lowerChars before cs = cs
  | [], _, _ => rfl
  | c :: cs, before, h => by
    rw [List.forall_mem_cons] at h
    simp only [lowerChars, if_neg h.1.notSigma, h.1.fixed, lowerChars_of_settled (c :: before) h.2]
    rfl

/-- Lower case is done once. -/
theorem toLower_toLower (s : String) : toLower (toLower s) = toLower s := by
  unfold toLower
  rw [String.toList_ofList, lowerChars_of_settled [] fun c hc => settled_of_mem_lowerChars hc]

/-! ## Text without white space around it -/

/-- Whether there is no white space at either end. -/
structure Trimmed (cs : List Char) : Prop where
  first : ∀ c ∈ cs.head?, isBlank c = false
  last : ∀ c ∈ cs.getLast?, isBlank c = false

theorem dropWhile_of_head? {α : Type} {p : α → Bool} {l : List α} (h : ∀ a ∈ l.head?, p a = false) :
    l.dropWhile p = l := by
  cases l with
  | nil => rfl
  | cons a l => rw [List.dropWhile_cons, h a rfl, if_neg Bool.false_ne_true]

theorem trimmed_trimChars (cs : List Char) : Trimmed (trimChars cs) := by
  have dropped : ∀ l : List Char, ∀ c ∈ (l.dropWhile isBlank).head?, isBlank c = false := by
    intro l c hc
    have := List.head?_dropWhile_not isBlank l
    rwa [Option.mem_def.1 hc] at this
  unfold trimChars trimEndChars
  refine ⟨fun c hc => ?_, fun c hc => ?_⟩
  · -- what is left after the blanks at the end are dropped starts as before
    obtain ⟨ending, he⟩ := List.reverse_prefix.2 (List.dropWhile_suffix isBlank (l := (cs.dropWhile isBlank).reverse))
    rw [List.reverse_reverse] at he
    refine dropped cs c ?_
    rw [← he, List.head?_append, Option.mem_def.1 hc]
    rfl
  · rw [List.getLast?_reverse] at hc
    exact dropped _ c hc

theorem trimChars_of_trimmed {cs : List Char} (h : Trimmed cs) : trimChars cs = cs := by
  unfold trimChars trimEndChars
  rw [dropWhile_of_head? h.first, dropWhile_of_head? (by rw [List.head?_reverse]; exact h.last),
    List.reverse_reverse]

/-- Text is trimmed once. -/
theorem trim_trim (s : String) : trim (trim s) = trim s := by
  unfold trim
  rw [String.toList_ofList, trimChars_of_trimmed (trimmed_trimChars _)]

theorem map_trim_eq_self {ss : List String} (h : ∀ s ∈ ss, trim s = s) : ss.map trim = ss :=
  (List.map_congr_left h).trans (List.map_id' ss)

/-- The last character of a text in lower case belongs to the last one of the text. -/
theorem lowerChars_last : ∀ {cs : List Char} (before : List Char), (∀ c ∈ cs.getLast?, isBlank c = false) →
    ∀ d ∈ (lowerChars before cs).getLast?, isBlank d = false
  | [], _, _, _, hd => by cases hd
  | [c], before, h, d, hd => by
    obtain ⟨image, he, hl⟩ := lowerChars_cons before c []
    rw [he, lowerChars, List.append_nil] at hd
    exact hl.blank (h c rfl) d (List.mem_of_getLast? hd)
  | c :: c' :: cs, before, h, d, hd => by
    obtain ⟨image, he, -⟩ := lowerChars_cons before c (c' :: cs)
    obtain ⟨image', he', hl'⟩ := lowerChars_cons (c :: before) c' cs
    have hne : lowerChars (c :: before) (c' :: cs) ≠ [] := by
      rw [he']
      exact List.append_ne_nil_of_left_ne_nil hl'.nonempty _
    rw [he, List.getLast?_append, List.getLast?_eq_some_getLast hne, Option.some_or,
      ← List.getLast?_eq_some_getLast hne] at hd
    exact lowerChars_last (c :: before) (by rwa [List.getLast?_cons_cons] at h) d hd

theorem Trimmed.lowerChars {cs : List Char} (h : Trimmed cs) (before : List Char) :
    Trimmed (lowerChars before cs) := by
  refine ⟨fun d hd => ?_, lowerChars_last before h.last⟩
  cases cs with
  | nil => cases hd
  | cons c cs =>
    obtain ⟨image, he, hl⟩ := lowerChars_cons before c cs
    obtain ⟨d', image', rfl⟩ := List.exists_cons_of_ne_nil hl.nonempty
    rw [he] at hd
    cases hd
    exact hl.blank (h.first c rfl) d (List.mem_cons_self ..)

/-- Lower case brings no white space to the ends of a text. -/
theorem trim_toLower_trim (s : String) : trim (toLower (trim s)) = toLower (trim s) := by
  simp only [trim, toLower, String.toList_ofList]
  rw [trimChars_of_trimmed ((trimmed_trimChars _).lowerChars [])]

/-- Text that is trimmed and in lower case stays so. -/
theorem toLower_trim_toLower_trim (s : String) : toLower (trim (toLower (trim s))) = toLower (trim s) := by
  rw [trim_toLower_trim, toLower_toLower]

end AccessGate.Text
