/-
Label selectors that are written out and read again. A term can be written with white space around its key, its sign
and its value (`Requirement.Written`), and a selector as its terms joined by commas with empty ones in between
(`Selector.Written`). Main statement: reading a selector that was written gives what was written, and a selector in
the syntax of sets is refused (`written_selector_read_back`).
-/
import AccessGate.Proofs.Cluster.Conjunction
import AccessGate.Text.Alphanumeric

namespace AccessGate.Cluster

open Text

/-! ## Characters of labels -/

/-- Whether a character is a letter or numeral of any script, or one of the signs that keys and values of labels are
made of besides. -/
def isLabelChar (c : Char) : Bool :=
  isAlphanumeric c || c == '-' || c == '_' || c == '.' || c == '/'

/-- Whether text has no other characters than keys and values of labels. -/
def LabelText (cs : List Char) : Prop :=
  ∀ c ∈ cs, isLabelChar c = true

theorem isLabelChar_of_blankRuns : ∀ r ∈ blankRuns, ∀ k < r.last - r.first + 1,
    isLabelChar (Char.ofNat (r.first + k)) = false := by
  decide +kernel

theorem isBlank_of_isLabelChar {c : Char} (h : isLabelChar c = true) : isBlank c = false := by
  refine Bool.eq_false_iff.2 fun hblank => ?_
  obtain ⟨r, hr, hfirst, hlast, -⟩ := isBlank_eq_true hblank
  have hno := isLabelChar_of_blankRuns r hr (c.toNat - r.first) (by omega)
  rw [Nat.add_sub_cancel' hfirst, Char.ofNat_toNat, h] at hno
  cases hno

/-- What has a meaning in selectors is no character of a label. -/
theorem isLabelChar_of_sign : ∀ c ∈ [',', '=', '!', '(', ' '], isLabelChar c = false := by
  simp only [List.forall_mem_cons]
  exact ⟨rfl, rfl, rfl, rfl, rfl, List.forall_mem_nil _⟩

namespace LabelText

variable {k : List Char}

theorem not_mem (h : LabelText k) {c : Char} (hc : isLabelChar c = false) : c ∉ k := fun hmem => by
  rw [h c hmem] at hc
  cases hc

theorem trimmed (h : LabelText k) : Trimmed k :=
  ⟨fun c hc => isBlank_of_isLabelChar (h c (List.mem_of_mem_head? hc)),
    fun c hc => isBlank_of_isLabelChar (h c (List.mem_of_getLast? hc))⟩

end LabelText

/-! ## Terms as they are written -/

/-- Whether text is another one with white space around it. -/
def Spaced (m w : List Char) : Prop :=
  ∃ b b', Blanks b ∧ Blanks b' ∧ w = b ++ (m ++ b')

namespace Requirement

/-- The key of the label that a term is about. -/
def key : Requirement → String
  | equals k _ | notEquals k _ | present k | absent k => k

/-- The value that a term names, if it names one. -/
def value : Requirement → String
  | equals _ v | notEquals _ v => v
  | present _ | absent _ => ""

/-- Whether key and value of a term are text of labels. The value may be empty, the key may not. -/
structure Plain (r : Requirement) : Prop where
  keyed : r.key.toList ≠ []
  key : LabelText r.key.toList
  value : LabelText r.value.toList

/-- The ways to write a term. -/
inductive Written : Requirement → List Char → Prop
  | equals {k v : String} {x y : List Char} (key : Spaced k.toList x) (value : Spaced v.toList y) :
    Written (.equals k v) (x ++ '=' :: y)
  | equalsTwice {k v : String} {x y : List Char} (key : Spaced k.toList x) (value : Spaced v.toList y) :
    Written (.equals k v) (x ++ '=' :: '=' :: y)
  | notEquals {k v : String} {x y : List Char} (key : Spaced k.toList x) (value : Spaced v.toList y) :
    Written (.notEquals k v) (x ++ '!' :: '=' :: y)
  | present {k : String} {x : List Char} (key : Spaced k.toList x) : Written (.present k) x
  | absent {k : String} {b x : List Char} (blanks : Blanks b) (key : Spaced k.toList x) :
    Written (.absent k) (b ++ '!' :: x)

end Requirement

/-- The ways to write terms one by one, with any number of empty ones among them. -/
inductive Selector.Pieces : Selector → List (List Char) → Prop
  | nil : Pieces [] []
  | empty {rs : Selector} {b : List Char} {ws : List (List Char)} (blanks : Blanks b) (rest : Pieces rs ws) :
    Pieces rs (b :: ws)
  | term {r : Requirement} {rs : Selector} {w : List Char} {ws : List (List Char)} (written : r.Written w)
    (rest : Pieces rs ws) : Pieces (r :: rs) (w :: ws)

/-- The ways to write a selector. -/
def Selector.Written (rs : Selector) (text : String) : Prop :=
  ∃ ws, Pieces rs ws ∧ text = String.ofList ([','].intercalate ws)

/-! ## Characters of terms -/

/-- Whether a character may stand in a term that is written. -/
def IsTermChar (c : Char) : Prop :=
  isLabelChar c = true ∨ isBlank c = true ∨ c = '=' ∨ c = '!'

theorem not_isTermChar : ∀ c ∈ [',', '('], ¬ IsTermChar c := by
  unfold IsTermChar
  simp only [List.forall_mem_cons]
  exact ⟨by decide, by decide, List.forall_mem_nil _⟩

theorem Spaced.chars {m w : List Char} (h : Spaced m w) (hm : LabelText m) : ∀ c ∈ w, IsTermChar c := by
  obtain ⟨b, b', hb, hb', rfl⟩ := h
  simp only [List.forall_mem_append]
  exact ⟨fun c hc => .inr (.inl (hb c hc)), fun c hc => .inl (hm c hc), fun c hc => .inr (.inl (hb' c hc))⟩

theorem Requirement.Written.chars {r : Requirement} {w : List Char} (h : r.Written w) (hr : r.Plain) :
    ∀ c ∈ w, IsTermChar c := by
  have heq : IsTermChar '=' := .inr (.inr (.inl rfl))
  have hbang : IsTermChar '!' := .inr (.inr (.inr rfl))
  cases h with
  | equals key value =>
    exact List.forall_mem_append.2 ⟨key.chars hr.key, List.forall_mem_cons.2 ⟨heq, value.chars hr.value⟩⟩
  | equalsTwice key value =>
    exact List.forall_mem_append.2 ⟨key.chars hr.key,
      List.forall_mem_cons.2 ⟨heq, List.forall_mem_cons.2 ⟨heq, value.chars hr.value⟩⟩⟩
  | notEquals key value =>
    exact List.forall_mem_append.2 ⟨key.chars hr.key,
      List.forall_mem_cons.2 ⟨hbang, List.forall_mem_cons.2 ⟨heq, value.chars hr.value⟩⟩⟩
  | present key => exact key.chars hr.key
  | absent blanks key =>
    exact List.forall_mem_append.2 ⟨fun c hc => .inr (.inl (blanks c hc)),
      List.forall_mem_cons.2 ⟨hbang, key.chars hr.key⟩⟩

/-! ## Trimming a term -/

section Trimming

variable {k v x y : List Char} {c : Char}

/-- Before a sign, trimming takes away the white space in front of the key. -/
theorem Spaced.trim_before (h : Spaced k x) (hk : LabelText k) (hne : k ≠ []) (hc : isBlank c = false) (y : List Char) :
    ∃ b, Blanks b ∧ trimChars (x ++ c :: y) = (k ++ b) ++ c :: trimEndChars y := by
  obtain ⟨b, b', hb, hb', rfl⟩ := h
  obtain ⟨d, k, rfl⟩ := List.exists_cons_of_ne_nil hne
  have hd : isBlank d = false := isBlank_of_isLabelChar (hk d (List.mem_cons_self ..))
  refine ⟨b', hb', ?_⟩
  rw [List.append_assoc, trimChars_append_blanks hb, List.cons_append, List.cons_append, trimChars_cons hd,
    ← List.cons_append, ← List.cons_append, trimEndChars_append_cons hc]

/-- After a sign, it takes away the white space behind the value, and with an empty value all of it. -/
theorem Spaced.trimEnd (h : Spaced v y) (hv : LabelText v) : ∃ b, Blanks b ∧ trimEndChars y = b ++ v := by
  obtain ⟨b, b', hb, hb', rfl⟩ := h
  rw [← List.append_assoc, trimEndChars_append_blanks hb']
  rcases List.eq_nil_or_concat v with rfl | ⟨v, d, rfl⟩
  · refine ⟨[], List.forall_mem_nil _, ?_⟩
    rw [List.append_nil, ← List.nil_append b, trimEndChars_append_blanks hb]
    rfl
  · have hd : isBlank d = false := isBlank_of_isLabelChar (hv d (by simp))
    refine ⟨b, hb, ?_⟩
    rw [List.concat_eq_append, ← List.append_assoc, trimEndChars_append_cons hd]
    rfl

end Trimming

/-! ## Reading a trimmed term -/

namespace Requirement

theorem isSetBased_eq_false_iff {w : List Char} : isSetBased w = false ↔
    contains [' ', 'i', 'n', ' '] w = false ∧ contains [' ', 'n', 'o', 't', 'i', 'n', ' '] w = false ∧ '(' ∉ w := by
  have hin : " in ".toList = [' ', 'i', 'n', ' '] := by decide
  have hnotin : " notin ".toList = [' ', 'n', 'o', 't', 'i', 'n', ' '] := by decide
  rw [isSetBased, hin, hnotin, Bool.or_eq_false_iff, Bool.or_eq_false_iff, and_assoc, ← Bool.not_eq_true (w.contains _),
    List.contains_iff_mem]

section Signs

variable {w x y : List Char}

/-- The sign for unequal comes before all others. -/
theorem ofTerm_of_unequal (hset : isSetBased w = false) (h : splitOnce? ['!', '='] w = some (x, y)) :
    ofTerm w = .ok (.notEquals (trimmed x) (trimmed y)) := by
  unfold ofTerm
  rw [hset, if_neg Bool.false_ne_true, h]

/-- A doubled sign for equal comes before a single one. -/
theorem ofTerm_of_equal (hset : isSetBased w = false) (hbang : '!' ∉ w) (h : splitOnce? ['=', '='] w = some (x, y) ∨
    splitOnce? ['=', '='] w = none ∧ splitOnce? ['='] w = some (x, y)) :
    ofTerm w = .ok (.equals (trimmed x) (trimmed y)) := by
  unfold ofTerm
  rw [hset, if_neg Bool.false_ne_true, splitOnce?_eq_none (List.mem_cons_self ..) hbang]
  rcases h with h | ⟨hno, h⟩
  · rw [h]
  · rw [hno, h]

theorem splitOnce?_unsigned (h : '=' ∉ w) :
    splitOnce? ['!', '='] w = none ∧ splitOnce? ['=', '='] w = none ∧ splitOnce? ['='] w = none :=
  ⟨splitOnce?_eq_none (List.mem_cons_of_mem _ (List.mem_cons_self ..)) h,
    splitOnce?_eq_none (List.mem_cons_self ..) h, splitOnce?_eq_none (List.mem_cons_self ..) h⟩

theorem ofTerm_of_bang (hset : isSetBased ('!' :: x) = false) (heq : '=' ∉ x) :
    ofTerm ('!' :: x) = .ok (.absent (trimmed x)) := by
  have hunsigned : '=' ∉ '!' :: x := List.not_mem_cons_of_ne_of_not_mem (by decide) heq
  obtain ⟨hunequal, htwice, hone⟩ := splitOnce?_unsigned hunsigned
  unfold ofTerm
  rw [hset, if_neg Bool.false_ne_true, hunequal, htwice, hone]
  rfl

theorem ofTerm_of_unsigned (hset : isSetBased w = false) (heq : '=' ∉ w) (hbang : '!' ∉ w) :
    ofTerm w = .ok (.present (String.ofList w)) := by
  obtain ⟨hunequal, htwice, hone⟩ := splitOnce?_unsigned heq
  unfold ofTerm
  rw [hset, if_neg Bool.false_ne_true, hunequal, htwice, hone]
  dsimp only
  split
  · exact absurd (List.mem_cons_self ..) hbang
  · rfl

end Signs

section Reading

variable {k v b b' : List Char}

theorem space_not_mem (hk : LabelText k) : ' ' ∉ k :=
  hk.not_mem (isLabelChar_of_sign _ (by decide))

/-- A sign is neither in a key nor in the white space behind it. -/
theorem sign_not_mem_key (hk : LabelText k) (hb : Blanks b) : ∀ c ∈ ['=', '!'], c ∉ k ++ b := by
  have hsign : ∀ c ∈ ['=', '!'], isLabelChar c = false ∧ isBlank c = false := by
    simp only [List.forall_mem_cons]
    exact ⟨⟨rfl, rfl⟩, ⟨rfl, rfl⟩, List.forall_mem_nil _⟩
  intro c hc hmem
  obtain ⟨hlabel, hblank⟩ := hsign c hc
  rcases List.mem_append.1 hmem with hmem | hmem
  · exact hk.not_mem hlabel hmem
  · rw [hb c hmem] at hblank
    cases hblank

theorem sign_not_mem_value (hv : LabelText v) (hb : Blanks b) : ∀ c ∈ ['=', '!'], c ∉ b ++ v := fun c hc hmem =>
  sign_not_mem_key hv hb c hc (List.mem_append.2 (List.mem_append.1 hmem).symm)

/-- A sign with a key and a value around it is not in the syntax of sets, whatever white space there is. -/
theorem not_isSetBased {sign : List Char} (hk : LabelText k) (hb : Blanks b) (hb' : Blanks b') (hv : LabelText v)
    (hsign : ∀ c ∈ sign, c = '=' ∨ c = '!') (hne : sign ≠ []) :
    isSetBased ((k ++ b) ++ (sign ++ (b' ++ v))) = false := by
  have unspaced : ∀ d w, (d = 'i' ∨ d = 'n') → ' ' ∈ d :: w →
      contains (' ' :: d :: w) ((k ++ b) ++ (sign ++ (b' ++ v))) = false := by
    intro d w hd hw
    have hfirst : isBlank d = false := by rcases hd with rfl | rfl <;> rfl
    -- a space in front of the sign is not followed by the word, and neither is one in front of the value, which
    -- has no space behind it
    have hsignstart : dropStart? (d :: w) (sign ++ (b' ++ v)) = none := by
      obtain ⟨e, rest, rfl⟩ := List.exists_cons_of_ne_nil hne
      refine dropStart?_cons_of_ne ?_ ..
      rcases hd with rfl | rfl <;> rcases hsign e (List.mem_cons_self ..) with rfl | rfl <;> decide
    have hsignspace : ' ' ∉ sign := fun h => by rcases hsign _ h with h | h <;> cases h
    rw [List.append_assoc, contains_append (space_not_mem hk), contains_append_blanks hfirst hsignstart hb,
      contains_append hsignspace, contains_append_blanks hfirst (dropStart?_eq_none (space_not_mem hv) hw) hb']
    exact not_contains_of_not_mem (List.mem_cons_self ..) (space_not_mem hv)
  have hchars : ∀ c ∈ (k ++ b) ++ (sign ++ (b' ++ v)), IsTermChar c := by
    simp only [List.forall_mem_append]
    exact ⟨⟨fun c hc => .inl (hk c hc), fun c hc => .inr (.inl (hb c hc))⟩, fun c hc => .inr (.inr (hsign c hc)),
      fun c hc => .inr (.inl (hb' c hc)), fun c hc => .inl (hv c hc)⟩
  exact isSetBased_eq_false_iff.2 ⟨unspaced 'i' _ (.inl rfl) (by decide), unspaced 'n' _ (.inr rfl) (by decide),
    fun hmem => not_isTermChar '(' (by decide) (hchars _ hmem)⟩

theorem trimmed_key (hk : LabelText k) (hb : Blanks b) : trimmed (k ++ b) = String.ofList k :=
  congrArg String.ofList (trimChars_padded hk.trimmed (List.forall_mem_nil _) hb)

theorem trimmed_value (hv : LabelText v) (hb : Blanks b) : trimmed (b ++ v) = String.ofList v := by
  have h := trimChars_padded hv.trimmed hb (List.forall_mem_nil _)
  rw [List.append_nil] at h
  exact congrArg String.ofList h

/-- A term with the sign for unequal, trimmed. -/
theorem ofTerm_notEquals (hk : LabelText k) (hb : Blanks b) (hb' : Blanks b') (hv : LabelText v) :
    ofTerm ((k ++ b) ++ '!' :: '=' :: (b' ++ v)) = .ok (.notEquals (String.ofList k) (String.ofList v)) := by
  have hset : isSetBased ((k ++ b) ++ (['!', '='] ++ (b' ++ v))) = false :=
    not_isSetBased hk hb hb' hv (by simp) (by decide)
  have hsplit : splitOnce? ['!', '='] ((k ++ b) ++ (['!', '='] ++ (b' ++ v))) = some (k ++ b, b' ++ v) :=
    splitOnce?_at_mark (sign_not_mem_key hk hb '!' (by decide)) _
  rw [← trimmed_key hk hb, ← trimmed_value hv hb']
  exact ofTerm_of_unequal hset hsplit

/-- A term with the sign for equal, which may be doubled, trimmed. -/
theorem ofTerm_equals {sign : List Char} (hk : LabelText k) (hb : Blanks b) (hb' : Blanks b') (hv : LabelText v)
    (hsign : sign = ['='] ∨ sign = ['=', '=']) :
    ofTerm ((k ++ b) ++ (sign ++ (b' ++ v))) = .ok (.equals (String.ofList k) (String.ofList v)) := by
  have hx := sign_not_mem_key hk hb
  have hy := sign_not_mem_value hv hb'
  have hset : isSetBased ((k ++ b) ++ (sign ++ (b' ++ v))) = false := by
    refine not_isSetBased hk hb hb' hv ?_ ?_ <;> rcases hsign with rfl | rfl <;> simp
  have hbang : '!' ∉ (k ++ b) ++ (sign ++ (b' ++ v)) := by
    have hno : '!' ∉ sign := by rcases hsign with rfl | rfl <;> decide
    exact List.not_mem_append (hx '!' (by decide)) (List.not_mem_append hno (hy '!' (by decide)))
  rw [← trimmed_key hk hb, ← trimmed_value hv hb']
  refine ofTerm_of_equal hset hbang ?_
  have heq : '=' ∉ k ++ b := hx '=' (by decide)
  rcases hsign with rfl | rfl
  · -- the single sign is not followed by another one
    have hrest : '=' ∉ b' ++ v := hy '=' (by decide)
    have hstart : dropStart? ['=', '='] ('=' :: (b' ++ v)) = none := by
      rw [dropStart?_cons_self, dropStart?_eq_none hrest (List.mem_cons_self ..)]
    refine .inr ⟨?_, splitOnce?_at_mark heq _⟩
    rw [splitOnce?_append _ heq, List.singleton_append, splitOnce?_cons _ hstart,
      splitOnce?_eq_none (List.mem_cons_self ..) hrest]
    rfl
  · exact .inl (splitOnce?_at_mark heq _)

/-- A key with the sign for absence in front, trimmed. -/
theorem ofTerm_absent (hk : LabelText k) (hb : Blanks b) :
    ofTerm ('!' :: (b ++ k)) = .ok (.absent (String.ofList k)) := by
  have hset : isSetBased (([] ++ []) ++ (['!'] ++ (b ++ k))) = false :=
    not_isSetBased (List.forall_mem_nil _) (List.forall_mem_nil _) hb hk (by simp) (by decide)
  rw [← trimmed_value hk hb]
  exact ofTerm_of_bang hset (sign_not_mem_value hk hb '=' (by decide))

/-- A key alone. -/
theorem ofTerm_present (hk : LabelText k) : ofTerm k = .ok (.present (String.ofList k)) := by
  have hset : isSetBased k = false :=
    isSetBased_eq_false_iff.2 ⟨not_contains_of_not_mem (List.mem_cons_self ..) (space_not_mem hk),
      not_contains_of_not_mem (List.mem_cons_self ..) (space_not_mem hk),
      hk.not_mem (isLabelChar_of_sign _ (by decide))⟩
  exact ofTerm_of_unsigned hset (hk.not_mem (isLabelChar_of_sign _ (by decide)))
    (hk.not_mem (isLabelChar_of_sign _ (by decide)))

end Reading

/-- However a term is written, what is left of it when it is trimmed is read as that term. -/
theorem Written.ofTerm_trimmed {r : Requirement} {w : List Char} (h : r.Written w) (hr : r.Plain) :
    ofTerm (trimChars w) = .ok r := by
  have hbang : isBlank '!' = false := by decide
  have heq : isBlank '=' = false := by decide
  have again : ∀ c, isBlank c = false → ∀ y, trimEndChars (c :: y) = c :: trimEndChars y := fun c hc y =>
    trimEndChars_append_cons hc [] y
  cases h with
  | @equals k v x y key value =>
    obtain ⟨b, hb, htrim⟩ := key.trim_before hr.key hr.keyed heq y
    obtain ⟨b', hb', hvalue⟩ := value.trimEnd hr.value
    have hread := ofTerm_equals hr.key hb hb' hr.value (.inl rfl)
    rw [htrim, hvalue]
    rwa [String.ofList_toList, String.ofList_toList] at hread
  | @equalsTwice k v x y key value =>
    obtain ⟨b, hb, htrim⟩ := key.trim_before hr.key hr.keyed heq ('=' :: y)
    obtain ⟨b', hb', hvalue⟩ := value.trimEnd hr.value
    have hread := ofTerm_equals hr.key hb hb' hr.value (.inr rfl)
    rw [htrim, again _ heq, hvalue]
    rwa [String.ofList_toList, String.ofList_toList] at hread
  | @notEquals k v x y key value =>
    obtain ⟨b, hb, htrim⟩ := key.trim_before hr.key hr.keyed hbang ('=' :: y)
    obtain ⟨b', hb', hvalue⟩ := value.trimEnd hr.value
    have hread := ofTerm_notEquals hr.key hb hb' hr.value
    rw [htrim, again _ heq, hvalue]
    rwa [String.ofList_toList, String.ofList_toList] at hread
  | present key =>
    obtain ⟨b, b', hb, hb', rfl⟩ := key
    have hread := ofTerm_present hr.key
    rw [String.ofList_toList] at hread
    exact (congrArg ofTerm (trimChars_padded hr.key.trimmed hb hb')).trans hread
  | @absent k b x blanks key =>
    obtain ⟨b', hb', hvalue⟩ := key.trimEnd hr.key
    have hread := ofTerm_absent hr.key hb'
    rw [String.ofList_toList] at hread
    rw [trimChars_append_blanks blanks, trimChars_cons hbang, again _ hbang, hvalue]
    exact hread

end Requirement

/-! ## Reading a selector -/

namespace Selector

theorem terms_ofList_intercalate {ws : List (List Char)} (h : ∀ w ∈ ws, ',' ∉ w) :
    terms (String.ofList ([','].intercalate ws)) = (ws.map trimChars).filter fun t => !t.isEmpty := by
  unfold terms
  rw [String.toList_ofList]
  cases ws with
  | nil => rfl
  | cons w ws => rw [splitChars_intercalate (List.cons_ne_nil w ws) h]

variable {rs : Selector} {ws : List (List Char)}

theorem Pieces.comma_not_mem (h : Pieces rs ws) (hrs : ∀ r ∈ rs, r.Plain) : ∀ w ∈ ws, ',' ∉ w := by
  induction h with
  | nil => exact List.forall_mem_nil _
  | empty blanks _ ih =>
    refine List.forall_mem_cons.2 ⟨fun hmem => ?_, ih hrs⟩
    cases blanks _ hmem
  | term written _ ih =>
    obtain ⟨hr, hrs⟩ := List.forall_mem_cons.1 hrs
    exact List.forall_mem_cons.2 ⟨fun hmem => not_isTermChar ',' (by decide) (written.chars hr _ hmem), ih hrs⟩

/-- The pieces are read one by one, and the empty ones are passed over. -/
theorem Pieces.read (h : Pieces rs ws) (hrs : ∀ r ∈ rs, r.Plain) :
    ((ws.map trimChars).filter fun t => !t.isEmpty).mapM Requirement.ofTerm = .ok rs := by
  induction h with
  | nil => rfl
  | empty blanks _ ih =>
    rw [List.map_cons, trimChars_blanks blanks]
    exact ih hrs
  | @term r rs w ws written _ ih =>
    obtain ⟨hr, hrs⟩ := List.forall_mem_cons.1 hrs
    have hread := written.ofTerm_trimmed hr
    have hne : (!(trimChars w).isEmpty) = true := by
      refine Bool.not_eq_true' _ ▸ List.isEmpty_eq_false_iff.2 fun hnil => ?_
      -- nothing would be read as an empty key
      rw [hnil] at hread
      cases hread
      exact hr.keyed rfl
    rw [List.map_cons, List.filter_cons, if_pos hne, List.mapM_cons, hread, ih hrs]
    rfl

/-- A selector that was written is read as what was written. -/
theorem Written.parse_eq {text : String} (h : Written rs text) (hrs : ∀ r ∈ rs, r.Plain) : parse text = .ok rs := by
  obtain ⟨ws, hws, rfl⟩ := h
  unfold parse
  rw [terms_ofList_intercalate (hws.comma_not_mem hrs)]
  exact hws.read hrs

/-! ## Sets -/

/-- Whether text has a set in it: one of the two words and, in brackets, whatever stands for its members. -/
def HasSet (text : String) : Prop :=
  ∃ before word gap members after, word ∈ ["in".toList, "notin".toList] ∧ Blanks gap ∧
    text = String.ofList (before ++ (word ++ (gap ++ '(' :: (members ++ ')' :: after))))

theorem HasSet.bracket_mem {text : String} (h : HasSet text) : '(' ∈ text.toList := by
  obtain ⟨before, word, gap, members, after, -, -, rfl⟩ := h
  simp

/-- An opening bracket is in some term, which is then in the syntax of sets. -/
theorem exists_isSetBased {text : String} (h : '(' ∈ text.toList) :
    ∃ w ∈ terms text, Requirement.isSetBased w = true := by
  obtain ⟨piece, hpiece, hmem⟩ := exists_piece_of_mem (show '(' ≠ ',' by decide) h
  have htrim : '(' ∈ trimChars piece := mem_trimChars (by decide) hmem
  refine ⟨_, List.mem_filter.2 ⟨List.mem_map_of_mem hpiece, ?_⟩, ?_⟩
  · simpa using List.ne_nil_of_mem htrim
  · exact eq_true_of_ne_false fun hno => (Requirement.isSetBased_eq_false_iff.1 hno).2.2 htrim

end Selector

theorem Requirement.ofTerm_eq_error {w : List Char} {e : Error} : ofTerm w = .error e ↔
    isSetBased w = true ∧ e = .unsupported ("set-based label selector " ++ Text.quoted (String.ofList w)) := by
  unfold ofTerm
  cases isSetBased w with
  | true => simp [eq_comm]
  | false =>
    rw [if_neg Bool.false_ne_true]
    refine ⟨fun h => ?_, fun h => (nomatch h.1)⟩
    repeat' split at h
    all_goals cases h

theorem Requirement.ofTerm_ok_iff {w : List Char} : (∃ r, ofTerm w = .ok r) ↔ isSetBased w = false := by
  rw [← Bool.not_eq_true]
  constructor
  · rintro ⟨r, hr⟩ hset
    cases hr.symm.trans (ofTerm_eq_error.2 ⟨hset, rfl⟩)
  · intro hset
    cases hread : ofTerm w with
    | error e => exact absurd (ofTerm_eq_error.1 hread).1 hset
    | ok r => exact ⟨r, rfl⟩

/-- A selector cannot be read exactly if one of its terms is in the syntax of sets, and the first that is says why. -/
theorem Selector.parse_eq_error {text : String} {e : Error} : parse text = .error e ↔
    ∃ before term after, terms text = before ++ term :: after ∧ (∀ w ∈ before, Requirement.isSetBased w = false) ∧
      Requirement.isSetBased term = true ∧
      e = .unsupported ("set-based label selector " ++ Text.quoted (String.ofList term)) := by
  unfold parse
  simp only [mapM_eq_error, Requirement.ofTerm_ok_iff, Requirement.ofTerm_eq_error]

/-- A selector that was written, of terms whose keys and values are made of the characters of labels, is read as what
was written, and a list with it gives the objects of the collection whose labels satisfy all of that. A selector with a
set in it is refused, by the first of its terms that is in the syntax of sets, and a list with it fails. -/
theorem written_selector_read_back :
    (∀ (rs : Selector) text, (∀ r ∈ rs, r.Plain) → rs.Written text → Selector.parse text = .ok rs ∧
      ∀ (s : Store) t (sel : Selection), sel.fields.getD "" = "" → ∃ l all,
        (s.list t { sel with labels := some text }).1 = .ok l ∧ (s.list t { sel with labels := none }).1 = .ok all ∧
        l.items = all.items.filter fun o => rs.all fun r => r.holds o.labels) ∧
    ∀ text, Selector.HasSet text → ∃ before term after, Selector.terms text = before ++ term :: after ∧
      (∀ w ∈ before, Requirement.isSetBased w = false) ∧ Requirement.isSetBased term = true ∧
      let refusal := Error.unsupported ("set-based label selector " ++ Text.quoted (String.ofList term))
      Selector.parse text = .error refusal ∧
      ∀ (s : Store) t (sel : Selection), sel.fields.getD "" = "" →
        (s.list t { sel with labels := some text }).1 = .error refusal := by
  refine ⟨fun rs text hrs htext => ?_, fun text hset => ?_⟩
  · have hparse := htext.parse_eq hrs
    refine ⟨hparse, fun s t sel hfields => ?_⟩
    have hsel : Selection.selector { sel with labels := some text } = .ok rs :=
      (@Selection.selector_eq { sel with labels := some text } hfields).trans hparse
    have hall : Selection.selector { sel with labels := none } = .ok [] :=
      @Selection.selector_eq { sel with labels := none } hfields
    exact ⟨_, _, Store.list_eq s t hsel, Store.list_eq s t hall, Store.values_select_append s t [] rs⟩
  · obtain ⟨w, hw, hwset⟩ := Selector.exists_isSetBased hset.bracket_mem
    cases hparse : Selector.parse text with
    | ok rs =>
      have hread := Requirement.ofTerm_ok_iff.1 (mapM_ok_iff.1 ⟨rs, hparse⟩ w hw)
      rw [hwset] at hread
      cases hread
    | error e =>
      obtain ⟨before, term, after, hterms, hbefore, hterm, rfl⟩ := Selector.parse_eq_error.1 hparse
      refine ⟨before, term, after, hterms, hbefore, hterm, rfl, fun s t sel hfields => Store.list_eq_error.2 ?_⟩
      exact (@Selection.selector_eq { sel with labels := some text } hfields).trans hparse

namespace Store

instance (b : List Char) : Decidable (Blanks b) :=
  List.decidableBAll (isBlank · = true) b

instance (k : List Char) : Decidable (LabelText k) :=
  List.decidableBAll (isLabelChar · = true) k

/-- A selector with white space, an empty term and an empty value is read back and picks the stage in production; a set
after it is refused. -/
theorem production_listed_by_written_selector :
    let rs : Selector := [.equals "tier" "prod", .absent "gone", .notEquals "tier" ""]
    let text := " tier == prod\t,, ! gone,tier!= "
    let all : Target := ⟨stages, ""⟩
    rs.Written text ∧ Selector.parse text = .ok rs ∧
      (∃ l, (tieredStages.list all { labels := some text }).1 = .ok l ∧ l.items.length = 1) ∧
      ∃ e, (tieredStages.list all { labels := some "tier,tier notin (prod, dev)" }).1 = .error (.unsupported e) := by
  intro rs text all
  obtain ⟨hread, hrefused⟩ := written_selector_read_back
  have hwritten : rs.Written text :=
    ⟨_, .term (.equalsTwice ⟨[' '], [' '], by decide, by decide, rfl⟩ ⟨[' '], ['\t'], by decide, by decide, rfl⟩)
      (.empty (b := []) (by decide) (.term (.absent (b := [' ']) (by decide) ⟨[' '], [], by decide, by decide, rfl⟩)
        (.term (.notEquals ⟨[], [], by decide, by decide, rfl⟩ ⟨[' '], [], by decide, by decide, rfl⟩) .nil))),
      by decide⟩
  have hplain : ∀ r ∈ rs, r.Plain := by
    have hkeys : ∀ r ∈ rs, r.key.toList ≠ [] ∧ LabelText r.key.toList ∧ LabelText r.value.toList := by decide
    exact fun r hr => ⟨(hkeys r hr).1, (hkeys r hr).2.1, (hkeys r hr).2.2⟩
  obtain ⟨hparse, hlist⟩ := hread rs text hplain hwritten
  obtain ⟨l, listed, hl, hlisted, hitems⟩ := hlist tieredStages all {} rfl
  have hset : Selector.HasSet "tier,tier notin (prod, dev)" :=
    ⟨"tier,tier ".toList, "notin".toList, [' '], "prod, dev".toList, [], by decide, by decide, by decide⟩
  obtain ⟨_, _, _, -, -, -, -, hfails⟩ := hrefused _ hset
  refine ⟨hwritten, hparse, ⟨l, hl, ?_⟩, _, hfails tieredStages all {} rfl⟩
  cases hlisted
  rw [hitems]
  rfl

end Store

end AccessGate.Cluster
