/-
Laws of finite maps: what is found after a key is bound or removed, which does not need the keys to
ascend. Keys keep ascending when one is bound, and a map with ascending keys is given by its bindings
(`Ascending.ext`).
-/
import AccessGate.Assoc

namespace AccessGate

theorem compare_eq_lt_iff {v w : String} : compare v w = .lt ↔ v < w :=
  compareOfLessAndEq_eq_lt

namespace Assoc

variable {κ α : Type}

section Lookup

variable [DecidableEq κ]

theorem get?_cons (b : κ × α) (m : Assoc κ α) (k : κ) :
    Assoc.get? (b :: m) k = if k = b.1 then some b.2 else Assoc.get? m k := rfl

theorem mem_of_get? {k : κ} {v : α} : ∀ {m : Assoc κ α}, m.get? k = some v → (k, v) ∈ m
  | [], h => by cases h
  | (k', v') :: m, h => by
    rw [get?_cons] at h
    split at h
    · rename_i hk; cases h; rw [hk]; exact List.mem_cons_self ..
    · exact List.mem_cons_of_mem _ (mem_of_get? h)

theorem erase_cons_of_ne {b : κ × α} {k : κ} (h : b.1 ≠ k) (m : Assoc κ α) :
    Assoc.erase (b :: m) k = b :: m.erase k :=
  List.filter_cons_of_pos (decide_eq_true h)

theorem erase_cons_self (k : κ) (v : α) (m : Assoc κ α) : Assoc.erase ((k, v) :: m) k = m.erase k :=
  List.filter_cons_of_neg (by simp)

theorem get?_erase_of_ne {k k' : κ} (h : k' ≠ k) : ∀ m : Assoc κ α, (m.erase k).get? k' = m.get? k'
  | [] => rfl
  | (k₁, v) :: m => by
    have ih := get?_erase_of_ne h m
    unfold erase at ih ⊢
    rw [List.filter_cons, get?_cons]
    split
    · rw [get?_cons, ih]
    · -- the binding that is dropped is not the one looked for
      rename_i hk
      simp only [decide_eq_true_eq, ne_eq, Decidable.not_not] at hk
      rw [if_neg (fun e => h (e.trans hk)), ih]

theorem get?_erase_self (k : κ) (m : Assoc κ α) : (m.erase k).get? k = none := by
  induction m with
  | nil => rfl
  | cons b m ih =>
    unfold erase at ih ⊢
    rw [List.filter_cons]
    split
    · rename_i hk
      rw [get?_cons, if_neg (fun e => of_decide_eq_true hk e.symm), ih]
    · exact ih

theorem has_iff {m : Assoc κ α} {k : κ} : m.has k = true ↔ k ∈ m.keys := by
  induction m with
  | nil => simp [has, get?, keys]
  | cons b m ih =>
    unfold has keys at ih ⊢
    rw [get?_cons, List.map_cons, List.mem_cons, ← ih]
    split <;> simp_all

theorem get?_append (m m' : Assoc κ α) (k : κ) : Assoc.get? (m ++ m') k = (m.get? k).or (m'.get? k) := by
  induction m with
  | nil => rfl
  | cons b m ih =>
    rw [List.cons_append, get?_cons, get?_cons, ih]
    split <;> rfl

theorem get?_eq_none_iff {m : Assoc κ α} {k : κ} : m.get? k = none ↔ k ∉ m.keys := by
  rw [← has_iff]
  unfold has
  cases m.get? k <;> simp

theorem erase_eq_self {m : Assoc κ α} {k : κ} (h : m.get? k = none) : m.erase k = m := by
  refine List.filter_eq_self.2 fun b hb => decide_eq_true fun hk => ?_
  exact get?_eq_none_iff.1 h (List.mem_map.2 ⟨b, hb, hk⟩)

/-- In a map without repeated keys every binding is found. -/
theorem get?_of_mem {k : κ} {v : α} : ∀ {m : Assoc κ α}, m.keys.Nodup → (k, v) ∈ m → m.get? k = some v
  | b :: m, hn, h => by
    obtain ⟨hb, hm⟩ := List.nodup_cons.1 hn
    rw [get?_cons]
    rcases List.mem_cons.1 h with rfl | h
    · exact if_pos rfl
    · have hne : k ≠ b.1 := by
        rintro rfl
        exact hb (List.mem_map.2 ⟨_, h, rfl⟩)
      rw [if_neg hne]
      exact get?_of_mem hm h

theorem mem_erase {b : κ × α} {m : Assoc κ α} {k : κ} (h : b ∈ m.erase k) : b ∈ m :=
  (List.mem_filter.1 h).1

end Lookup

section Insert

variable [Ord κ]

theorem mem_insert {b : κ × α} {k : κ} {v : α} :
    ∀ {m : Assoc κ α}, b ∈ m.insert k v → b = (k, v) ∨ b ∈ m
  | [], h => .inl (List.mem_singleton.1 h)
  | (k', v') :: m, h => by
    unfold insert at h
    split at h
    · exact List.mem_cons.1 h
    · exact (List.mem_cons.1 h).imp id (List.mem_cons_of_mem _)
    · rcases List.mem_cons.1 h with h | h
      · exact .inr (h ▸ List.mem_cons_self ..)
      · exact (mem_insert h).imp id (List.mem_cons_of_mem _)

theorem mem_ofBindings {b : κ × α} {bs : List (κ × α)} (h : b ∈ ofBindings bs) : b ∈ bs := by
  have fold : ∀ (bs : List (κ × α)) (m : Assoc κ α),
      b ∈ bs.foldl (fun m b => m.insert b.1 b.2) m → b ∈ bs ∨ b ∈ m := by
    intro bs
    induction bs with
    | nil => exact fun m h => .inr h
    | cons b' bs ih =>
      intro m h
      rcases ih _ h with h | h
      · exact .inl (List.mem_cons_of_mem _ h)
      · rcases mem_insert h with h | h
        · exact .inl (h ▸ List.mem_cons_self ..)
        · exact .inr h
  exact (fold bs [] h).resolve_right List.not_mem_nil

variable [Std.LawfulEqOrd κ]

theorem mem_keys_insert {k k' : κ} {v : α} : ∀ {m : Assoc κ α}, k' ∈ (m.insert k v).keys ↔ k' = k ∨ k' ∈ m.keys
  | [] => by simp [insert, keys]
  | (k₁, v₁) :: m => by
    have ih : k' ∈ (insert m k v).keys ↔ k' = k ∨ k' ∈ keys m := mem_keys_insert
    unfold keys at ih ⊢
    unfold insert
    split
    · simp only [List.map_cons, List.mem_cons]
    · rename_i hk
      cases Std.LawfulEqOrd.eq_of_compare hk
      simp only [List.map_cons, List.mem_cons, or_self_left]
    · simp only [List.map_cons, List.mem_cons, ih]
      exact or_left_comm

variable [DecidableEq κ]

theorem get?_insert_of_ne {k k' : κ} (h : k' ≠ k) (v : α) :
    ∀ m : Assoc κ α, (m.insert k v).get? k' = m.get? k'
  | [] => by simp [insert, get?_cons, h, get?]
  | (k₁, v₁) :: m => by
    unfold insert
    split
    · rw [get?_cons, if_neg h]
    · rename_i hk
      cases Std.LawfulEqOrd.eq_of_compare hk
      rw [get?_cons, get?_cons, if_neg h, if_neg h]
    · rw [get?_cons, get?_cons, get?_insert_of_ne h v m]

theorem get?_insert_self (k : κ) (v : α) : ∀ m : Assoc κ α, (m.insert k v).get? k = some v
  | [] => if_pos rfl
  | (k₁, v₁) :: m => by
    unfold insert
    split
    · rw [get?_cons, if_pos rfl]
    · rw [get?_cons, if_pos rfl]
    · rename_i hk
      have hne : k ≠ k₁ := by
        rintro rfl
        rw [Std.ReflOrd.compare_self] at hk
        cases hk
      rw [get?_cons, if_neg hne, get?_insert_self k v m]

/-- Of bindings that are added one after the other, the last for a key counts. -/
theorem get?_foldl_insert (bs : List (κ × α)) (k : κ) :
    ∀ m : Assoc κ α, (bs.foldl (fun m b => m.insert b.1 b.2) m).get? k = (Assoc.get? bs.reverse k).or (m.get? k) := by
  induction bs with
  | nil => exact fun _ => rfl
  | cons b bs ih =>
    intro m
    rw [List.foldl_cons, ih, List.reverse_cons, get?_append, Option.or_assoc]
    congr 1
    by_cases hk : k = b.1
    · rw [hk, get?_insert_self, get?_cons, if_pos rfl]
      rfl
    · rw [get?_insert_of_ne hk, get?_cons, if_neg hk]
      rfl

theorem get?_ofBindings (bs : List (κ × α)) (k : κ) : (ofBindings bs).get? k = Assoc.get? bs.reverse k :=
  (get?_foldl_insert bs k []).trans (Option.or_none ..)

theorem get?_ofBindings_append (bs bs' : List (κ × α)) (k : κ) :
    (ofBindings (bs ++ bs')).get? k = ((ofBindings bs').get? k).or ((ofBindings bs).get? k) := by
  rw [get?_ofBindings, get?_ofBindings, get?_ofBindings, List.reverse_append, get?_append]

end Insert

section Ascending

variable [Ord κ]

theorem Ascending.filter {m : Assoc κ α} (h : m.Ascending) (f : κ × α → Bool) : Ascending (m.filter f) :=
  List.Pairwise.filter f h

theorem Ascending.erase [DecidableEq κ] {m : Assoc κ α} (h : m.Ascending) (k : κ) : (m.erase k).Ascending :=
  List.Pairwise.filter _ h

variable [Std.LawfulEqOrd κ]

theorem Ascending.insert [Std.TransOrd κ] (k : κ) (v : α) : ∀ {m : Assoc κ α}, m.Ascending → (m.insert k v).Ascending
  | [], _ => List.pairwise_singleton ..
  | (k', v') :: m, h => by
    obtain ⟨hlt, hm⟩ := List.pairwise_cons.1 h
    unfold Assoc.insert
    split
    · rename_i hk
      refine List.pairwise_cons.2 ⟨fun b hb => ?_, h⟩
      rcases List.mem_cons.1 hb with rfl | hb
      · exact hk
      · exact Std.TransCmp.lt_trans hk (hlt b hb)
    · rename_i hk
      cases Std.LawfulEqOrd.eq_of_compare hk
      exact List.pairwise_cons.2 ⟨hlt, hm⟩
    · rename_i hk
      refine List.pairwise_cons.2 ⟨fun b hb => ?_, Ascending.insert k v hm⟩
      rcases mem_insert hb with rfl | hb
      · exact Std.OrientedCmp.gt_iff_lt.1 hk
      · exact hlt b hb

theorem ascending_ofBindings [Std.TransOrd κ] (bs : List (κ × α)) : (ofBindings bs).Ascending := by
  have fold : ∀ m : Assoc κ α, m.Ascending → (bs.foldl (fun m b => m.insert b.1 b.2) m).Ascending := by
    induction bs with
    | nil => exact fun _ h => h
    | cons b bs ih => exact fun m h => ih _ (h.insert b.1 b.2)
  exact fold [] List.Pairwise.nil

/-- Lists that ascend in something and have the same members are the same. -/
theorem eq_of_ascending [Std.TransOrd κ] {β : Type} (f : β → κ) {l l' : List β}
    (h : l.Pairwise fun a b => compare (f a) (f b) = .lt) (h' : l'.Pairwise fun a b => compare (f a) (f b) = .lt)
    (heq : ∀ b, b ∈ l ↔ b ∈ l') : l = l' := by
  have irrefl : ∀ b, compare (f b) (f b) ≠ .lt := fun b hb => by
    rw [Std.ReflOrd.compare_self] at hb
    cases hb
  have nodup : ∀ {l : List β}, (l.Pairwise fun a b => compare (f a) (f b) = .lt) → l.Nodup := by
    intro l hl
    refine List.Pairwise.imp ?_ hl
    rintro a b hlt rfl
    exact irrefl a hlt
  refine List.Perm.eq_of_pairwise (fun a b _ _ hab hba => ?_) h h' ?_
  · exact absurd (Std.TransCmp.lt_trans hab hba) (irrefl a)
  · exact (List.perm_ext_iff_of_nodup (nodup h) (nodup h')).2 heq

/-- Maps with ascending keys and the same bindings are the same. -/
theorem Ascending.ext [Std.TransOrd κ] {m m' : Assoc κ α} (h : m.Ascending) (h' : m'.Ascending)
    (heq : ∀ k v, (k, v) ∈ m ↔ (k, v) ∈ m') : m = m' :=
  eq_of_ascending Prod.fst h h' fun b => heq b.1 b.2

theorem Ascending.nodup_keys {m : Assoc κ α} (h : m.Ascending) : m.keys.Nodup := by
  refine List.pairwise_map.2 (h.imp ?_)
  intro b b' hlt heq
  rw [heq, Std.ReflOrd.compare_self] at hlt
  cases hlt

variable [DecidableEq κ]

theorem Ascending.get?_of_mem {k : κ} {v : α} {m : Assoc κ α} (h : m.Ascending) (hk : (k, v) ∈ m) :
    m.get? k = some v :=
  Assoc.get?_of_mem h.nodup_keys hk

theorem Ascending.get?_eq_some_iff {k : κ} {v : α} {m : Assoc κ α} (h : m.Ascending) :
    m.get? k = some v ↔ (k, v) ∈ m :=
  ⟨mem_of_get?, h.get?_of_mem⟩

/-- Maps with ascending keys in which the same is found under every key are the same. -/
theorem Ascending.ext_get? [Std.TransOrd κ] {m m' : Assoc κ α} (h : m.Ascending) (h' : m'.Ascending)
    (heq : ∀ k, m.get? k = m'.get? k) : m = m' :=
  h.ext h' fun k v => by rw [← h.get?_eq_some_iff, ← h'.get?_eq_some_iff, heq]

/-- The first key is not among the others. -/
theorem Ascending.get?_tail {b : κ × α} {m : Assoc κ α} (h : Ascending (b :: m)) : m.get? b.1 = none :=
  get?_eq_none_iff.2 (List.nodup_cons.1 h.nodup_keys).1

theorem Ascending.get?_reverse {k : κ} : ∀ {m : Assoc κ α}, m.Ascending → Assoc.get? m.reverse k = m.get? k
  | [], _ => rfl
  | b :: m, h => by
    have hm : Ascending m := (List.pairwise_cons.1 h).2
    rw [List.reverse_cons, get?_append, Ascending.get?_reverse hm, get?_cons, get?_cons]
    split
    · rename_i hk
      rw [hk, h.get?_tail]
      rfl
    · exact Option.or_none

/-- A map with ascending keys is the map of its bindings. -/
theorem Ascending.ofBindings_eq [Std.TransOrd κ] {m : Assoc κ α} (h : m.Ascending) : ofBindings m = m :=
  (ascending_ofBindings m).ext_get? h fun _ => (get?_ofBindings ..).trans h.get?_reverse

theorem Ascending.get?_filter {k : κ} {v : α} {m : Assoc κ α} (h : m.Ascending) (f : κ × α → Bool) :
    Assoc.get? (m.filter f) k = some v ↔ m.get? k = some v ∧ f (k, v) = true := by
  rw [(h.filter f).get?_eq_some_iff, h.get?_eq_some_iff, List.mem_filter]

end Ascending

end Assoc

end AccessGate
