/-
Text that is cut at separators and at marks, and trimmed. Cutting text that was joined by a separator gives what was
joined (`splitChars_intercalate`), joining what was cut gives the text (`intercalate_splitChars`,
`intercalate_splitOnMark`), so a text has one list of pieces (`splitOn_eq_iff`). Text before a mark that has not the
mark's first character is passed over (`splitOnce?_append`), and trimming takes away exactly what was put around text
that is trimmed (`trimChars_padded`).
-/
import AccessGate.Proofs.Text.Lower
import AccessGate.Text.Split

namespace AccessGate.Text

/-! ## Pieces -/

section Pieces

variable {sep : Char}

theorem splitChars_ne_nil (sep : Char) : ∀ cs : List Char, splitChars sep cs ≠ []
  | [] => List.cons_ne_nil _ _
  | c :: cs => by
    unfold splitChars
    split
    · exact List.cons_ne_nil _ _
    · split <;> exact List.cons_ne_nil _ _

theorem splitChars_cons_self (sep : Char) (cs : List Char) : splitChars sep (sep :: cs) = [] :: splitChars sep cs :=
  if_pos rfl

theorem splitChars_cons_of_ne {c : Char} (h : c ≠ sep) {cs piece : List Char} {pieces : List (List Char)}
    (hcs : splitChars sep cs = piece :: pieces) : splitChars sep (c :: cs) = (c :: piece) :: pieces := by
  rw [splitChars, if_neg h, hcs]

theorem splitChars_of_not_mem : ∀ {cs : List Char}, sep ∉ cs → splitChars sep cs = [cs]
  | [], _ => rfl
  | _ :: _, h =>
    splitChars_cons_of_ne (List.ne_of_not_mem_cons h).symm (splitChars_of_not_mem (List.not_mem_of_not_mem_cons h))

/-- A separator cuts whatever is around it. -/
theorem splitChars_append_sep (b : List Char) :
    ∀ a : List Char, splitChars sep (a ++ sep :: b) = splitChars sep a ++ splitChars sep b
  | [] => splitChars_cons_self sep b
  | c :: a => by
    have ih := splitChars_append_sep b a
    by_cases hc : c = sep
    · subst hc
      rw [List.cons_append, splitChars_cons_self, splitChars_cons_self, ih, List.cons_append]
    · obtain ⟨piece, pieces, hpieces⟩ := List.exists_cons_of_ne_nil (splitChars_ne_nil sep a)
      rw [hpieces] at ih
      rw [List.cons_append, splitChars_cons_of_ne hc hpieces, splitChars_cons_of_ne hc ih]
      rfl

/-- Pieces without the separator come back when they are joined by it and cut again. -/
theorem splitChars_intercalate : ∀ {ps : List (List Char)}, ps ≠ [] → (∀ p ∈ ps, sep ∉ p) →
    splitChars sep ([sep].intercalate ps) = ps
  | [p], _, h => by
    rw [List.intercalate_singleton, splitChars_of_not_mem (h p (List.mem_singleton_self p))]
  | p :: q :: ps, _, h => by
    obtain ⟨hp, hps⟩ := List.forall_mem_cons.1 h
    rw [List.intercalate_cons_cons, List.append_assoc, List.singleton_append, splitChars_append_sep,
      splitChars_of_not_mem hp, splitChars_intercalate (List.cons_ne_nil q ps) hps]
    rfl

/-- What is cut is joined again by the separator. -/
theorem intercalate_splitChars (sep : Char) : ∀ cs : List Char, [sep].intercalate (splitChars sep cs) = cs
  | [] => rfl
  | c :: cs => by
    have ih := intercalate_splitChars sep cs
    obtain ⟨piece, pieces, hpieces⟩ := List.exists_cons_of_ne_nil (splitChars_ne_nil sep cs)
    rw [hpieces] at ih
    by_cases hc : c = sep
    · rw [hc, splitChars_cons_self, hpieces, List.intercalate_cons_cons, ih]
      rfl
    · rw [splitChars_cons_of_ne hc hpieces]
      cases pieces with
      | nil =>
        rw [List.intercalate_singleton] at ih ⊢
        rw [ih]
      | cons next pieces =>
        rw [List.intercalate_cons_cons] at ih ⊢
        rw [List.cons_append, List.cons_append, ih]

/-- No piece has the separator. -/
theorem not_mem_of_mem_splitChars {piece : List Char} : ∀ {cs : List Char}, piece ∈ splitChars sep cs → sep ∉ piece
  | [], h => by
    rw [List.mem_singleton.1 h]
    exact List.not_mem_nil
  | c :: cs, h => by
    have ih : ∀ p ∈ splitChars sep cs, sep ∉ p := fun p hp => not_mem_of_mem_splitChars hp
    obtain ⟨first, pieces, hpieces⟩ := List.exists_cons_of_ne_nil (splitChars_ne_nil sep cs)
    by_cases hc : c = sep
    · rw [hc, splitChars_cons_self] at h
      rcases List.mem_cons.1 h with rfl | h
      · exact List.not_mem_nil
      · exact ih piece h
    · rw [splitChars_cons_of_ne hc hpieces] at h
      rw [hpieces] at ih
      rcases List.mem_cons.1 h with rfl | h
      · exact List.not_mem_cons_of_ne_of_not_mem (Ne.symm hc) (ih first (List.mem_cons_self ..))
      · exact ih piece (List.mem_cons_of_mem _ h)

/-- The pieces of a text are the only ones without the separator that are joined to it. -/
theorem splitOn_eq_iff {s : String} {ps : List String} : splitOn sep s = ps ↔
    ps ≠ [] ∧ (∀ p ∈ ps, sep ∉ p.toList) ∧ (String.singleton sep).intercalate ps = s := by
  have hjoined : ∀ ps : List String,
      ((String.singleton sep).intercalate ps).toList = [sep].intercalate (ps.map String.toList) := by
    intro ps
    rw [String.toList_intercalate, String.toList_singleton]
  constructor
  · rintro rfl
    refine ⟨?_, ?_, ?_⟩
    · exact mt List.map_eq_nil_iff.1 (splitChars_ne_nil sep s.toList)
    · intro p hp
      obtain ⟨cs, hcs, rfl⟩ := List.mem_map.1 hp
      rw [String.toList_ofList]
      exact not_mem_of_mem_splitChars hcs
    · have hid : String.toList ∘ String.ofList = id := funext fun _ => String.toList_ofList
      apply String.toList_inj.1
      rw [hjoined, splitOn, List.map_map, hid, List.map_id, intercalate_splitChars]
  · rintro ⟨hne, hps, rfl⟩
    have hid : String.ofList ∘ String.toList = id := funext fun _ => String.ofList_toList
    have hpieces : ∀ p ∈ ps.map String.toList, sep ∉ p := List.forall_mem_map.2 hps
    rw [splitOn, hjoined, splitChars_intercalate (mt List.map_eq_nil_iff.1 hne) hpieces, List.map_map, hid,
      List.map_id]

/-- Nothing is lost but the separators. -/
theorem exists_piece_of_mem {c : Char} (hc : c ≠ sep) : ∀ {cs : List Char}, c ∈ cs → ∃ p ∈ splitChars sep cs, c ∈ p
  | d :: cs, h => by
    obtain ⟨piece, pieces, hpieces⟩ := List.exists_cons_of_ne_nil (splitChars_ne_nil sep cs)
    by_cases hd : d = sep
    · have hmem : c ∈ cs := (List.mem_cons.1 h).resolve_left (hd ▸ hc)
      obtain ⟨p, hp, hcp⟩ := exists_piece_of_mem hc hmem
      rw [hd, splitChars_cons_self]
      exact ⟨p, List.mem_cons_of_mem _ hp, hcp⟩
    · rw [splitChars_cons_of_ne hd hpieces]
      rcases List.mem_cons.1 h with rfl | hmem
      · exact ⟨_, List.mem_cons_self .., List.mem_cons_self ..⟩
      · obtain ⟨p, hp, hcp⟩ := exists_piece_of_mem hc hmem
        rw [hpieces] at hp
        rcases List.mem_cons.1 hp with rfl | hp
        · exact ⟨_, List.mem_cons_self .., List.mem_cons_of_mem _ hcp⟩
        · exact ⟨p, List.mem_cons_of_mem _ hp, hcp⟩

end Pieces

/-! ## Marks -/

section Marks

variable {c : Char} {mark s : List Char}

theorem dropStart?_cons_self (c : Char) (ps cs : List Char) : dropStart? (c :: ps) (c :: cs) = dropStart? ps cs :=
  if_pos rfl

theorem dropStart?_cons_of_ne {p d : Char} (h : p ≠ d) (ps cs : List Char) : dropStart? (p :: ps) (d :: cs) = none :=
  if_neg h

/-- Text starts with a mark only if it has all characters of the mark. -/
theorem dropStart?_eq_none (hs : c ∉ s) : ∀ {mark : List Char}, c ∈ mark → dropStart? mark s = none := by
  induction s with
  | nil =>
    intro mark hc
    cases mark with
    | nil => cases hc
    | cons => rfl
  | cons d s ih =>
    intro mark hc
    cases mark with
    | nil => cases hc
    | cons p ps =>
      unfold dropStart?
      split
      · rename_i hp
        have hps : c ∈ ps := (List.mem_cons.1 hc).resolve_left fun e => List.ne_of_not_mem_cons hs (e.trans hp)
        exact ih (List.not_mem_of_not_mem_cons hs) hps
      · rfl

theorem splitOnce?_eq_none (hc : c ∈ mark) : ∀ {s : List Char}, c ∉ s → splitOnce? mark s = none
  | [], hs => by rw [splitOnce?, dropStart?_eq_none hs hc]
  | d :: s, hs => by
    rw [splitOnce?, dropStart?_eq_none hs hc]
    simp only
    rw [splitOnce?_eq_none hc (List.not_mem_of_not_mem_cons hs)]
    rfl

theorem splitOnce?_of_start {rest : List Char} (h : dropStart? mark s = some rest) :
    splitOnce? mark s = some ([], rest) := by
  rw [splitOnce?.eq_def, h]

theorem splitOnce?_cons (d : Char) (h : dropStart? mark (d :: s) = none) :
    splitOnce? mark (d :: s) = (splitOnce? mark s).map fun r => (d :: r.1, r.2) := by
  rw [splitOnce?, h]

/-- Text without the first character of a mark is passed over. -/
theorem splitOnce?_append (s : List Char) : ∀ {m : List Char}, c ∉ m →
    splitOnce? (c :: mark) (m ++ s) = (splitOnce? (c :: mark) s).map fun r => (m ++ r.1, r.2)
  | [], _ => by simp
  | d :: m, hm => by
    have hd : c ≠ d := List.ne_of_not_mem_cons hm
    rw [List.cons_append, splitOnce?_cons d (dropStart?_cons_of_ne hd ..),
      splitOnce?_append s (List.not_mem_of_not_mem_cons hm), Option.map_map]
    rfl

theorem dropStart?_append (rest : List Char) : ∀ mark : List Char, dropStart? mark (mark ++ rest) = some rest
  | [] => by cases rest <;> rfl
  | c :: mark => by rw [List.cons_append, dropStart?_cons_self, dropStart?_append rest mark]

theorem eq_append_of_dropStart? {rest : List Char} : ∀ {mark s : List Char}, dropStart? mark s = some rest → s = mark ++ rest
  | [], s, h => by
    unfold dropStart? at h
    exact Option.some.inj h
  | p :: ps, [], h => by cases h
  | p :: ps, c :: cs, h => by
    unfold dropStart? at h
    split at h
    · rename_i hp
      rw [hp, eq_append_of_dropStart? h, List.cons_append]
    · cases h

/-- Text starts with a mark exactly if it is the mark and something after it. -/
theorem dropStart?_eq_some {rest : List Char} : dropStart? mark s = some rest ↔ s = mark ++ rest := by
  constructor
  · exact eq_append_of_dropStart?
  · rintro rfl
    exact dropStart?_append rest mark

theorem dropStart?_toList {start text : String} {rest : List Char} :
    dropStart? start.toList text.toList = some rest ↔ text = start ++ String.ofList rest := by
  rw [dropStart?_eq_some, ← String.toList_inj, String.toList_append, String.toList_ofList]

theorem append_of_splitOnce? : ∀ {s before after : List Char}, splitOnce? mark s = some (before, after) →
    s = before ++ (mark ++ after)
  | [], before, after, h => by
    unfold splitOnce? at h
    split at h
    · rename_i rest hrest
      cases h
      rw [List.nil_append, eq_append_of_dropStart? hrest]
    · cases h
  | c :: cs, before, after, h => by
    unfold splitOnce? at h
    split at h
    · rename_i rest hrest
      cases h
      rw [List.nil_append, eq_append_of_dropStart? hrest]
    · obtain ⟨⟨b, a⟩, hcs, hpair⟩ := Option.map_eq_some_iff.1 h
      cases hpair
      rw [List.cons_append, append_of_splitOnce? hcs]

/-- What is cut at a mark is joined again by the mark. -/
theorem intercalate_splitAll (mark : List Char) : ∀ (fuel : Nat) (s : List Char),
    mark.intercalate (splitAll mark fuel s) = s
  | 0, s => List.intercalate_singleton
  | fuel + 1, s => by
    unfold splitAll
    split
    · exact List.intercalate_singleton
    · rename_i before after h
      have ih := intercalate_splitAll mark fuel after
      have hne : splitAll mark fuel after ≠ [] := by
        cases fuel with
        | zero => exact List.cons_ne_nil _ _
        | succ fuel =>
          unfold splitAll
          split <;> exact List.cons_ne_nil _ _
      obtain ⟨piece, pieces, hpieces⟩ := List.exists_cons_of_ne_nil hne
      rw [hpieces] at ih ⊢
      rw [List.intercalate_cons_cons, ih, append_of_splitOnce? h, List.append_assoc]

theorem intercalate_splitOnMark (mark s : String) : mark.intercalate (splitOnMark mark s) = s := by
  apply String.toList_inj.1
  rw [String.toList_intercalate, splitOnMark, List.map_map]
  have hid : String.toList ∘ String.ofList = id := funext fun _ => String.toList_ofList
  rw [hid, List.map_id, intercalate_splitAll]

/-- Text is cut at the first mark. -/
theorem splitOnce?_at_mark {x : List Char} (hx : c ∉ x) (rest : List Char) :
    splitOnce? (c :: mark) (x ++ (c :: mark ++ rest)) = some (x, rest) := by
  rw [splitOnce?_append _ hx, splitOnce?_of_start (dropStart?_append rest _), Option.map_some, List.append_nil]

theorem not_contains_of_not_mem (hc : c ∈ mark) (hs : c ∉ s) : contains mark s = false := by
  rw [contains, splitOnce?_eq_none hc hs]
  rfl

theorem contains_append {m : List Char} (hm : c ∉ m) (s : List Char) :
    contains (c :: mark) (m ++ s) = contains (c :: mark) s := by
  rw [contains, splitOnce?_append s hm, Option.isSome_map]
  rfl

end Marks

/-! ## Blanks -/

section Blanks

variable {b b' m : List Char}

/-- Whether text is all blanks. -/
def Blanks (b : List Char) : Prop :=
  ∀ c ∈ b, isBlank c = true

theorem trimEndChars_append_blanks (hb : Blanks b) (m : List Char) : trimEndChars (m ++ b) = trimEndChars m := by
  unfold trimEndChars
  rw [List.reverse_append, List.dropWhile_append_of_pos fun c hc => hb c (List.mem_reverse.1 hc)]

/-- Trimming at the end stops at the last character that is no blank. -/
theorem trimEndChars_append_cons {c : Char} (hc : isBlank c = false) (m cs : List Char) :
    trimEndChars (m ++ c :: cs) = m ++ c :: trimEndChars cs := by
  unfold trimEndChars
  rw [List.reverse_append, List.reverse_cons, List.append_assoc, List.dropWhile_append]
  split
  · rename_i hblank
    simp [List.isEmpty_iff.1 hblank, hc]
  · simp

theorem trimChars_append_blanks (hb : Blanks b) (m : List Char) : trimChars (b ++ m) = trimChars m := by
  unfold trimChars
  rw [List.dropWhile_append_of_pos hb]

theorem trimChars_cons {c : Char} (hc : isBlank c = false) (cs : List Char) :
    trimChars (c :: cs) = trimEndChars (c :: cs) := by
  unfold trimChars
  rw [List.dropWhile_cons, hc, if_neg Bool.false_ne_true]

theorem trimChars_blanks (hb : Blanks b) : trimChars b = [] := by
  rw [← List.append_nil b, trimChars_append_blanks hb]
  rfl

/-- Trimmed text is all blank only if it is empty. -/
theorem isAllBlank_of_trimmed {t : String} (h : trim t = t) (hne : t ≠ "") : isAllBlank t = false := by
  rw [← Bool.not_eq_true]
  intro hblank
  apply hne
  have hnil : trimChars t.toList = [] := trimChars_blanks (List.all_eq_true.1 hblank)
  rw [← h, trim, hnil]

/-- Trimming takes away what was put around text that is trimmed. -/
theorem trimChars_padded (hm : Trimmed m) (hb : Blanks b) (hb' : Blanks b') : trimChars (b ++ (m ++ b')) = m := by
  rw [trimChars_append_blanks hb]
  cases m with
  | nil => rw [List.nil_append, trimChars_blanks hb']
  | cons c m =>
    have hc : isBlank c = false := hm.first c rfl
    rw [List.cons_append, trimChars_cons hc, ← List.cons_append, trimEndChars_append_blanks hb', ← trimChars_cons hc,
      trimChars_of_trimmed hm]

/-- What is no blank is kept. -/
theorem mem_trimChars {c : Char} (hc : isBlank c = false) {cs : List Char} (h : c ∈ cs) : c ∈ trimChars cs := by
  have drop : ∀ {l : List Char}, c ∈ l → c ∈ l.dropWhile isBlank := by
    intro l hl
    rw [← List.takeWhile_append_dropWhile (p := isBlank) (l := l)] at hl
    refine (List.mem_append.1 hl).resolve_left fun htake => ?_
    have hblank := List.all_eq_true.1 List.all_takeWhile c htake
    rw [hc] at hblank
    cases hblank
  unfold trimChars trimEndChars
  exact List.mem_reverse.2 (drop (List.mem_reverse.2 (drop h)))

/-- A mark that starts with a space and goes on with no blank does not start among blanks, unless it does at the last of
them. -/
theorem contains_append_blanks {p : Char} {ps s : List Char} (hp : isBlank p = false)
    (hs : dropStart? (p :: ps) s = none) (hb : Blanks b) :
    contains (' ' :: p :: ps) (b ++ s) = contains (' ' :: p :: ps) s := by
  induction b with
  | nil => rfl
  | cons d b ih =>
    obtain ⟨-, hb⟩ := List.forall_mem_cons.1 hb
    have hrest : dropStart? (p :: ps) (b ++ s) = none := by
      cases b with
      | nil => exact hs
      | cons e b =>
        refine dropStart?_cons_of_ne (fun hpe => ?_) ..
        rw [hpe, hb e (List.mem_cons_self ..)] at hp
        cases hp
    have hstart : dropStart? (' ' :: p :: ps) (d :: (b ++ s)) = none := by
      unfold dropStart?
      split
      · exact hrest
      · rfl
    rw [List.cons_append, contains, splitOnce?_cons d hstart, Option.isSome_map]
    exact ih hb

end Blanks

end AccessGate.Text
