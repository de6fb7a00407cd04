/-
Written times are read back. A day number and its date determine each other, the digits of a number
are read as that number, and so what is written for a point in time is read as that point to the
second; written again it is the same text.
-/
import AccessGate.Text.Timestamp

namespace AccessGate.Text.Timestamp

/-! ## The calendar -/

theorem yearOf_mono {d d' : Int} (h : d ≤ d') : yearOf d ≤ yearOf d' := by
  unfold yearOf
  have h1 : d' / 1460 - d / 1460 ≤ d' - d := by omega
  have h2 : d / 36524 - d / 146096 ≤ d' / 36524 - d' / 146096 := by omega
  omega

theorem yearOf_firstDay : ∀ n : Fin 400,
    yearOf (firstDay n.val) = n.val ∧ (0 < n.val → yearOf (firstDay n.val - 1) = n.val - 1) := by
  decide +kernel

/-- A day is in a year or a later one if it is not before the first day of that year. -/
theorem le_yearOf_iff {y d : Int} (hy : 0 ≤ y) (hlt : y < 400) (hd : 0 ≤ d) :
    y ≤ yearOf d ↔ firstDay y ≤ d := by
  obtain ⟨n, rfl⟩ := Int.eq_ofNat_of_zero_le hy
  obtain ⟨hfirst, hlast⟩ := yearOf_firstDay ⟨n, by omega⟩
  constructor
  · intro h
    refine Int.not_lt.1 fun hbefore => ?_
    rcases Nat.eq_zero_or_pos n with rfl | hpos
    · simp [firstDay] at hbefore
      omega
    · have hle := yearOf_mono (show d ≤ firstDay n - 1 by omega)
      have hlast := hlast hpos
      simp only at hlast
      omega
  · intro h
    have hle := yearOf_mono h
    simp only at hfirst
    omega

/-- What day of its year a day is, counted from 0. Only a leap year has a day 365. -/
theorem dayOfYear_spec {d : Int} (h0 : 0 ≤ d) (h1 : d < 146097) :
    0 ≤ yearOf d ∧ yearOf d < 400 ∧ 0 ≤ d - firstDay (yearOf d) ∧ d - firstDay (yearOf d) ≤ 365 ∧
      (d - firstDay (yearOf d) = 365 →
        (yearOf d + 1) % 4 = 0 ∧ ((yearOf d + 1) % 100 ≠ 0 ∨ (yearOf d + 1) % 400 = 0)) := by
  have hy : 0 ≤ yearOf d ∧ yearOf d < 400 := by unfold yearOf; omega
  have hle := (le_yearOf_iff hy.1 hy.2 h0).1 (Int.le_refl _)
  have hnext : yearOf d + 1 < 400 → d < firstDay (yearOf d + 1) := fun h =>
    Int.not_le.1 fun h' => by
      have := (le_yearOf_iff (by omega) h h0).2 h'
      omega
  generalize yearOf d = y at *
  have h4 : (y + 1) / 4 ≤ y / 4 + 1 := by omega
  have h100 : y / 100 ≤ (y + 1) / 100 := by omega
  unfold firstDay at *
  refine ⟨hy.1, hy.2, by omega, ?_, fun h => ?_⟩
  · by_cases h : y + 1 < 400
    · have := hnext h
      omega
    · omega
  · by_cases h' : y + 1 < 400
    · have := hnext h'
      omega
    · omega

/-- A day of a year that starts with March is in a month, or it is the 29th of February, day 365. -/
theorem monthAndDay_spec : ∀ n : Fin 366,
    let m := (monthAndDay n.val).1
    let d := (monthAndDay n.val).2
    1 ≤ m ∧ m ≤ 12 ∧ 1 ≤ d ∧ (d ≤ daysInMonth 1 m ∨ m = 2 ∧ d = 29 ∧ n.val = 365) ∧
      (153 * ((m : Int) + (if 2 < m then -3 else 9)) + 2) / 5 + d - 1 = n.val := by
  decide +kernel

theorem daysInMonth_one_le (y : Int) (m : Nat) : daysInMonth 1 m ≤ daysInMonth y m := by
  unfold daysInMonth
  split
  · cases isLeap y <;> decide
  · exact Nat.le_refl _

theorem dateOfDay_eq (n : Int) :
    let era := (n + 719468) / 146097
    let doe := n + 719468 - era * 146097
    let md := monthAndDay (doe - firstDay (yearOf doe))
    dateOfDay n = (yearOf doe + era * 400 + (if md.1 ≤ 2 then 1 else 0), md.1, md.2) := by
  unfold dateOfDay
  simp only [Int.fdiv_eq_ediv_of_nonneg _ (show (0 : Int) ≤ 146097 by decide)]

/-- The date of a day is one of the calendar, and that day is the day of the date. -/
theorem dateOfDay_spec (n : Int) {y : Int} {m d : Nat} (h : dateOfDay n = (y, m, d)) :
    1 ≤ m ∧ m ≤ 12 ∧ 1 ≤ d ∧ d ≤ daysInMonth y m ∧ dayNumber y m d = n := by
  have hera := dateOfDay_eq n
  simp only at hera
  have hdoe : 0 ≤ n + 719468 - (n + 719468) / 146097 * 146097 ∧
      n + 719468 - (n + 719468) / 146097 * 146097 < 146097 := by omega
  generalize (n + 719468) / 146097 = era at *
  generalize hz : n + 719468 - era * 146097 = doe at *
  obtain ⟨hy0, hy1, hd0, hd1, hleap⟩ := dayOfYear_spec hdoe.1 hdoe.2
  generalize hyoe : yearOf doe = yoe at *
  generalize hdoy : doe - firstDay yoe = doy at *
  obtain ⟨k, rfl⟩ := Int.eq_ofNat_of_zero_le hd0
  obtain ⟨hm1, hm12, hday1, hdays, hback⟩ := monthAndDay_spec ⟨k, by omega⟩
  simp only at hm1 hm12 hday1 hdays hback
  rw [h] at hera
  simp only [Prod.mk.injEq] at hera
  obtain ⟨rfl, rfl, rfl⟩ := hera
  generalize hmd : monthAndDay k = md at *
  obtain ⟨m, d⟩ := md
  simp only at *
  refine ⟨hm1, hm12, hday1, ?_, ?_⟩
  · rcases hdays with hd | ⟨rfl, rfl, hk⟩
    · exact Nat.le_trans hd (daysInMonth_one_le _ m)
    · -- the 29th of February is the last day of a year that starts with March, and that is a leap year
      have hl := hleap (by omega)
      have hleapYear : isLeap (yoe + era * 400 + if 2 ≤ 2 then 1 else 0) = true := by
        simp only [isLeap, Bool.and_eq_true, Bool.or_eq_true, decide_eq_true_eq, Nat.le_refl, if_true]
        omega
      simp only [daysInMonth, if_pos hleapYear]
      decide
  · have hyear : (if m ≤ 2 then yoe + era * 400 + (if m ≤ 2 then 1 else 0) - 1
        else yoe + era * 400 + (if m ≤ 2 then 1 else 0)) = yoe + era * 400 := by
      split <;> omega
    have hback : (153 * ((m : Int) + (if 2 < m then -3 else 9)) + 2) / 5 + d = k + 1 := by omega
    have hera : (yoe + era * 400) / 400 = era := by omega
    have hyoe : yoe + era * 400 - era * 400 = yoe := by omega
    unfold dayNumber
    simp only [Int.fdiv_eq_ediv_of_nonneg _ (show (0 : Int) ≤ 400 by decide), hyear, hera, hyoe, hback]
    unfold firstDay at hdoy
    omega

/-! ## Digits -/

theorem isDigit_iff {c : Char} : c.isDigit = true ↔ 48 ≤ c.toNat ∧ c.toNat ≤ 57 := by
  simp [Char.isDigit, UInt32.le_iff_toNat_le]

theorem not_isBlank_of_isDigit {c : Char} (h : c.isDigit = true) : isBlank c = false := by
  obtain ⟨h0, h9⟩ := isDigit_iff.1 h
  unfold isBlank
  simp
  omega

theorem hexValue?_of_isDigit {c : Char} (h : c.isDigit = true) : hexValue? c = some (c.toNat - 48) :=
  if_pos (isDigit_iff.1 h)

/-- By induction on the digits, for any number that those before them write. -/
theorem foldl_digits : ∀ (ds : List Char) (n : Nat), (∀ c ∈ ds, c.isDigit = true) →
    ds.foldl (fun n c => n * 10 + (hexValue? c).getD 0) n = Nat.ofDigitChars 10 ds n
  | [], n, _ => rfl
  | c :: ds, n, h => by
    rw [List.forall_mem_cons] at h
    rw [List.foldl_cons, foldl_digits ds _ h.2, hexValue?_of_isDigit h.1, Nat.mul_comm]
    rfl

theorem isDigit_of_mem_padded {width n : Nat} {c : Char} (h : c ∈ padded width n) : c.isDigit = true := by
  unfold padded at h
  rcases List.mem_append.1 h with h | h
  · rw [(List.mem_replicate.1 h).2]
    rfl
  · exact Nat.isDigit_of_mem_toDigits (by decide) (by decide) h

theorem naturalOf_padded (width n : Nat) : naturalOf 10 (padded width n) = n := by
  have zeros : ∀ k, (List.replicate k '0').foldl (fun n c => n * 10 + (hexValue? c).getD 0) 0 = 0 := by
    intro k
    induction k with
    | zero => rfl
    | succ k ih => simpa [List.replicate_succ, hexValue?] using ih
  unfold naturalOf padded
  rw [List.foldl_append, zeros, foldl_digits _ _ fun c => Nat.isDigit_of_mem_toDigits (by decide) (by decide)]
  exact Nat.ofDigitChars_toDigits (by decide) (by decide)

theorem padded_ne_nil (width n : Nat) : padded width n ≠ [] := by
  unfold padded
  exact List.append_ne_nil_of_right_ne_nil _ (List.ne_nil_of_length_pos Nat.length_toDigits_pos)

theorem length_padded_le {width n : Nat} (hw : 0 < width) (h : n < pow10 width) :
    (padded width n).length ≤ width := by
  have := (Nat.length_toDigits_le_iff (b := 10) (by decide) hw).2 h
  unfold padded
  simp
  omega

/-! ## Reading what is written -/

theorem dropWhile_padded (width n : Nat) (rest : List Char) :
    (padded width n ++ rest).dropWhile isBlank = padded width n ++ rest := by
  cases hp : padded width n with
  | nil => exact absurd hp (padded_ne_nil width n)
  | cons c ds =>
    have hc : c.isDigit = true := isDigit_of_mem_padded (hp ▸ List.mem_cons_self ..)
    rw [List.cons_append, List.dropWhile_cons_of_neg (by simp [not_isBlank_of_isDigit hc])]

/-- A number that is written with no more digits than are read, and not followed by another digit, is read. -/
theorem number?_padded {width most n : Nat} (hlen : (padded width n).length ≤ most) {rest : List Char}
    (hrest : ∀ c ∈ rest.head?, c.isDigit = false) :
    number? most (padded width n ++ rest) = some (n, rest) := by
  have htake : (padded width n ++ rest).takeWhile Char.isDigit = padded width n := by
    rw [List.takeWhile_append_of_pos fun c => isDigit_of_mem_padded]
    cases rest with
    | nil => simp
    | cons c rest => simp [hrest c rfl]
  unfold number?
  simp only [dropWhile_padded, htake, List.take_of_length_le hlen, List.drop_left, naturalOf_padded,
    List.isEmpty_iff, padded_ne_nil, if_false]

theorem number?_pair {n : Nat} (h : n < 100) {rest : List Char} (hrest : ∀ c ∈ rest.head?, c.isDigit = false) :
    number? 2 (padded 2 n ++ rest) = some (n, rest) :=
  number?_padded (length_padded_le (by decide) h) hrest

theorem head?_padded (width n : Nat) (rest : List Char) :
    ∃ c, (padded width n ++ rest).head? = some c ∧ c.isDigit = true := by
  cases hp : padded width n with
  | nil => exact absurd hp (padded_ne_nil width n)
  | cons c ds => exact ⟨c, rfl, isDigit_of_mem_padded (hp ▸ List.mem_cons_self ..)⟩

/-- A year is read, whether it is written with a sign or not. -/
theorem year?_yearChars (y : Int) {rest : List Char} (hrest : ∀ c ∈ rest.head?, c.isDigit = false) :
    year? (yearChars y ++ rest) = some (y, rest) := by
  obtain ⟨c, hc, hdigit⟩ := head?_padded 4 y.natAbs rest
  unfold yearChars
  split
  · rename_i hy
    have hlen : (padded 4 y.natAbs).length ≤ 4 := length_padded_le (by decide) (by show _ < 10000; omega)
    unfold year?
    simp only [dropWhile_padded]
    -- a digit is no sign
    split
    · rename_i heq
      rw [heq] at hc
      cases hc
      cases hdigit
    · rename_i heq
      rw [heq] at hc
      cases hc
      cases hdigit
    · rw [number?_padded hlen hrest]
      simp only [Option.map_some]
      rw [Int.natAbs_of_nonneg hy.1]
  · have hlen : (padded 4 y.natAbs).length ≤ (padded 4 y.natAbs ++ rest).length := by simp
    have hany : (padded 4 y.natAbs ++ rest).head?.any Char.isDigit = true := by rw [hc]; exact hdigit
    have hsign : ∀ sign : Int, (if (padded 4 y.natAbs ++ rest).head?.any Char.isDigit then
        (number? (padded 4 y.natAbs ++ rest).length (padded 4 y.natAbs ++ rest)).map fun n => (sign * n.1, n.2)
        else none) = some (sign * y.natAbs, rest) := by
      intro sign
      rw [if_pos hany, number?_padded hlen hrest]
      rfl
    by_cases hneg : y < 0
    · rw [if_pos hneg]
      refine (hsign (-1)).trans ?_
      congr 2
      omega
    · rw [if_neg hneg]
      refine (hsign 1).trans ?_
      congr 2
      omega

/-- Whether a point in time can be the meaning of a text: its day is in the calendar, and a leap second
comes at the end of a minute. -/
structure Readable (t : Timestamp) : Prop where
  day : inCalendar (t.seconds.fdiv 86400) = true
  leap : pow10 9 ≤ t.nanos → t.seconds % 60 = 59

/-- What is written for a point in time, piece by piece. -/
theorem toList_render (t : Timestamp) {y : Int} {m d : Nat}
    (h : dateOfDay (t.seconds.fdiv 86400) = (y, m, d)) :
    let rest := (t.seconds - t.seconds.fdiv 86400 * 86400).toNat
    t.render.toList = yearChars y ++ '-' :: (padded 2 m ++ '-' :: (padded 2 d ++ 'T' ::
      (padded 2 (rest / 3600) ++ ':' :: (padded 2 (rest / 60 % 60) ++ ':' ::
        (padded 2 (rest % 60 + if pow10 9 ≤ t.nanos then 1 else 0) ++ ['Z']))))) := by
  simp only [render, renderWith, h, String.toList_ofList, List.append_assoc, List.cons_append, List.nil_append]

theorem mark?_cons {c : Char} (h : isBlank c = false) (rest : List Char) : mark? c (c :: rest) = some rest := by
  unfold mark?
  rw [List.dropWhile_cons_of_neg (by simp [h])]
  simp

theorem head?_not_digit {c : Char} (h : c.isDigit = false) (rest : List Char) :
    ∀ d ∈ (c :: rest).head?, d.isDigit = false := by
  rintro d ⟨⟩
  exact h

theorem lt_of_le_daysInMonth {y : Int} {m d : Nat} (h : d ≤ daysInMonth y m) : d < 100 := by
  unfold daysInMonth at h
  split at h
  · split at h <;> omega
  · split at h <;> omega

/-- The time of a day, to the second, is read with the date of the day. -/
theorem clock?_render {t : Timestamp} (h : t.Readable) {y : Int} {m d rest : Nat}
    (hdate : dateOfDay (t.seconds.fdiv 86400) = (y, m, d))
    (hrest : t.seconds - t.seconds.fdiv 86400 * 86400 = rest) :
    clock? y m d (padded 2 (rest / 3600) ++ ':' :: (padded 2 (rest / 60 % 60) ++ ':' ::
        (padded 2 (rest % 60 + if pow10 9 ≤ t.nanos then 1 else 0) ++ ['Z'])))
      = some ⟨t.seconds, if pow10 9 ≤ t.nanos then pow10 9 else 0⟩ := by
  obtain ⟨hm1, hm12, hd1, hdm, hday⟩ := dateOfDay_spec _ hdate
  have hdiv : t.seconds.fdiv 86400 = t.seconds / 86400 := Int.fdiv_eq_ediv_of_nonneg _ (by decide)
  have hcolon := fun l => head?_not_digit (show ':'.isDigit = false by rfl) l
  have hsec : rest % 60 + (if pow10 9 ≤ t.nanos then 1 else 0) ≤ 60 := by split <;> omega
  unfold clock?
  simp only [Option.bind_eq_bind, Option.bind_some, mark?_cons (show isBlank ':' = false by rfl),
    number?_pair (show rest / 3600 < 100 by omega) (hcolon _),
    number?_pair (show rest / 60 % 60 < 100 by omega) (hcolon _),
    number?_pair (show rest % 60 + (if pow10 9 ≤ t.nanos then 1 else 0) < 100 by omega)
      (head?_not_digit (show 'Z'.isDigit = false by rfl) [])]
  have hfraction : fraction? ['Z'] = some (0, ['Z']) := rfl
  have hoffset : offset? ['Z'] = some (0, []) := rfl
  simp only [hfraction, hoffset, Option.bind_some, hday]
  rw [if_pos ⟨rfl, hm1, hm12, hd1, hdm, by omega, by omega, hsec⟩]
  by_cases hleap : pow10 9 ≤ t.nanos
  · -- second 60 is the last one of its minute, and one more
    have h59 : rest % 60 = 59 := by
      have := h.leap hleap
      omega
    have hsum : t.seconds.fdiv 86400 * 86400 +
        ((rest / 3600 : Nat) * 3600 + (rest / 60 % 60 : Nat) * 60 + (59 : Nat)) - 0 = t.seconds := by
      omega
    simp only [if_pos hleap, h59, if_true, hsum, h.day, and_self, Nat.zero_add, Nat.reduceAdd]
  · have hne : rest % 60 + 0 ≠ 60 := by omega
    have hsum : t.seconds.fdiv 86400 * 86400 +
        ((rest / 3600 : Nat) * 3600 + (rest / 60 % 60 : Nat) * 60 + (rest % 60 + 0 : Nat)) - 0 = t.seconds := by
      omega
    simp only [if_neg hleap, if_neg hne, hsum, h.day, and_self, if_true]

/-- What is written for a point in time is read as that point to the second. -/
theorem parse?_render {t : Timestamp} (h : t.Readable) :
    parse? t.render = some ⟨t.seconds, if pow10 9 ≤ t.nanos then pow10 9 else 0⟩ := by
  obtain ⟨y, m, d, hdate⟩ : ∃ y m d, dateOfDay (t.seconds.fdiv 86400) = (y, m, d) := ⟨_, _, _, rfl⟩
  obtain ⟨hm1, hm12, -, hdm, -⟩ := dateOfDay_spec _ hdate
  have hdiv : t.seconds.fdiv 86400 = t.seconds / 86400 := Int.fdiv_eq_ediv_of_nonneg _ (by decide)
  obtain ⟨rest, hrest⟩ : ∃ rest : Nat, t.seconds - t.seconds.fdiv 86400 * 86400 = rest :=
    Int.eq_ofNat_of_zero_le (by omega)
  have hlist := toList_render t hdate
  simp only [hrest, Int.toNat_natCast] at hlist
  have hdash := fun l => head?_not_digit (show '-'.isDigit = false by rfl) l
  unfold parse?
  rw [hlist, year?_yearChars y (hdash _)]
  simp only [Option.bind_eq_bind, Option.bind_some, mark?_cons (show isBlank '-' = false by rfl),
    number?_pair (show m < 100 by omega) (hdash _),
    number?_pair (lt_of_le_daysInMonth hdm) (head?_not_digit (show 'T'.isDigit = false by rfl) _)]
  exact clock?_render h hdate hrest

/-! ## What is read can be written -/

theorem foldl_digits_lt : ∀ (ds : List Char) (n : Nat), (∀ c ∈ ds, c.isDigit = true) →
    ds.foldl (fun n c => n * 10 + (hexValue? c).getD 0) n < (n + 1) * pow10 ds.length
  | [], n, _ => by
    show n < (n + 1) * 1
    omega
  | c :: ds, n, h => by
    rw [List.forall_mem_cons] at h
    have hc := (isDigit_iff.1 h.1).2
    have ih := foldl_digits_lt ds (n * 10 + (c.toNat - 48)) h.2
    rw [List.foldl_cons, hexValue?_of_isDigit h.1, Option.getD_some]
    calc _ < (n * 10 + (c.toNat - 48) + 1) * pow10 ds.length := ih
      _ ≤ ((n + 1) * 10) * pow10 ds.length := Nat.mul_le_mul_right _ (by omega)
      _ = (n + 1) * pow10 (c :: ds).length := by
        rw [Nat.mul_assoc, List.length_cons]
        congr 1
        unfold pow10
        exact (Nat.pow_succ' ..).symm

/-- A fraction of a second is less than a second. -/
theorem fraction?_lt {s : List Char} {nanos : Nat} {rest : List Char} (h : fraction? s = some (nanos, rest)) :
    nanos < pow10 9 := by
  unfold fraction? at h
  split at h
  · rename_i r
    simp only at h
    split at h
    · cases h
    · cases h
      have hdigits : ∀ c ∈ (r.takeWhile Char.isDigit).take 9, c.isDigit = true := fun c hc =>
        List.all_eq_true.1 List.all_takeWhile c (List.mem_of_mem_take hc)
      have hlen : ((r.takeWhile Char.isDigit).take 9).length ≤ 9 := List.length_take_le ..
      generalize (r.takeWhile Char.isDigit).take 9 = ds at *
      have hlt := foldl_digits_lt ds 0 hdigits
      calc naturalOf 10 ds * pow10 (9 - ds.length)
          < pow10 ds.length * pow10 (9 - ds.length) :=
            Nat.mul_lt_mul_of_pos_right (by simpa [naturalOf] using hlt) (Nat.pow_pos (by decide))
        _ = pow10 9 := by
          exact (Nat.pow_add 10 _ _).symm.trans (by rw [Nat.add_sub_of_le hlen]; rfl)
  · cases h
    decide

theorem signedOffset?_minutes (negative : Bool) {s : List Char} {off : Int} {rest : List Char}
    (h : signedOffset? negative s = some (off, rest)) : off % 60 = 0 := by
  unfold signedOffset? at h
  simp only [Option.bind_eq_bind, Option.bind_eq_some_iff] at h
  obtain ⟨⟨hours, s₁⟩, -, ⟨minutes, s₂⟩, -, h⟩ := h
  split at h
  · cases h
    cases negative
    · show ((hours : Int) * 3600 + minutes * 60) % 60 = 0
      omega
    · show (-((hours : Int) * 3600 + minutes * 60)) % 60 = 0
      omega
  · cases h

/-- An offset is a number of minutes. -/
theorem offset?_minutes {s : List Char} {off : Int} {rest : List Char} (h : offset? s = some (off, rest)) :
    off % 60 = 0 := by
  unfold offset? at h
  split at h
  · cases h
    rfl
  · cases h
    rfl
  · split at h
    · cases h
      rfl
    · split at h
      · exact signedOffset?_minutes false h
      · split at h
        · exact signedOffset?_minutes true h
        · cases h
  · cases h

theorem readable_of_clock? {y : Int} {mo d : Nat} {s : List Char} {t : Timestamp}
    (h : clock? y mo d s = some t) : t.Readable := by
  unfold clock? at h
  simp only [Option.bind_eq_bind, Option.bind_eq_some_iff] at h
  obtain ⟨⟨hours, s₁⟩, -, s₂, -, ⟨minutes, s₃⟩, -, s₄, -, ⟨sec, s₅⟩, -, ⟨nanos, s₆⟩, hnanos, ⟨off, s₇⟩, hoff,
    h⟩ := h
  have hnanos := fraction?_lt hnanos
  have hoff := offset?_minutes hoff
  simp only [Option.ite_none_right_eq_some] at h
  obtain ⟨-, ⟨-, hday⟩, h⟩ := h
  cases h
  refine ⟨hday, fun hleap => ?_⟩
  -- a fraction of a second alone does not reach the mark of a leap second
  have hsec : sec = 60 := by
    refine Decidable.byContradiction fun hne => ?_
    simp only [if_neg hne] at hleap
    omega
  simp only [if_pos hsec]
  omega

/-- What a text is read as can be written and read again. -/
theorem readable_of_parse? {text : String} {t : Timestamp} (h : parse? text = some t) : t.Readable := by
  unfold parse? at h
  simp only [Option.bind_eq_bind, Option.bind_eq_some_iff] at h
  obtain ⟨⟨y, s₁⟩, -, s₂, -, ⟨mo, s₃⟩, -, s₄, -, ⟨d, s₅⟩, -, h⟩ := h
  simp only at h
  split at h
  · exact readable_of_clock? h
  · exact readable_of_clock? h
  · exact readable_of_clock? h
  · cases h

/-- A point in time is written the same after it was read from what is written for it. -/
theorem render_of_parse?_render {t t' : Timestamp} (h : t.Readable) (h' : parse? t.render = some t') :
    t'.render = t.render := by
  rw [parse?_render h] at h'
  cases h'
  unfold render renderWith
  by_cases hleap : pow10 9 ≤ t.nanos
  · simp only [if_pos hleap, Nat.le_refl, if_true]
  · simp only [if_neg hleap, show ¬ pow10 9 ≤ 0 from by decide, if_false]

end AccessGate.Text.Timestamp
