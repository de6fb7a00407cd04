/-
What is read from a text against the shape of a record stands in the text. A value of a field is what a member of
that name is read as, and no field is made up but by the zero value of its shape (`said_of_ofDraft`).
-/
import AccessGate.Kind.Shape.Text
import AccessGate.Proofs.Json.Ordered
import AccessGate.Proofs.Kind.Shape

namespace AccessGate

/-- Whether a draft is an object with this member. -/
def Json.Draft.Has (d : Draft) (k : String) (v : Draft) : Prop :=
  ∃ members passed key, d = .object members passed ∧ (key, v) ∈ members ∧ key.text = .ok k

namespace Shape

open Json (Draft Fault)

variable {read : Shape → Draft → Except Fault Json} {fields : List (String × Presence × Shape)}

theorem mem_of_lookup {α β : Type} [BEq α] [LawfulBEq α] {l : List (α × β)} {a : α} {b : β} (h : l.lookup a = some b) :
    (a, b) ∈ l := by
  obtain ⟨l₁, l₂, rfl, -⟩ := List.lookup_eq_some_iff.1 h
  simp

theorem fieldOf_eq_some {p : Presence} {s : Shape} {d : Draft} {j : Json} (h : fieldOf read p s d = .ok (some j)) :
    read s d = .ok j := by
  unfold fieldOf at h
  split at h
  · split at h
    · cases h
    · obtain ⟨j', hj', hj⟩ := map_eq_ok.1 h
      cases hj
      exact hj'
  · obtain ⟨j', hj', hj⟩ := map_eq_ok.1 h
    cases hj
    exact hj'

theorem absent_eq_some {p : Presence} {s : Shape} {j : Json} (h : absent p s = .ok (some j)) :
    p ≠ .optional ∧ j = s.zero := by
  cases p with
  | optional => cases h
  | filled | defaulted =>
    cases h
    exact ⟨by simp, rfl⟩
  | mandatory => cases h

/-- By induction on the members: what is given for a field was given before, or a member gives it. -/
theorem given_of_givenIn {strict : Bool} : ∀ {members : List (Draft × Draft)}
    {given given' : List (String × Option Json)}, givenIn read strict fields given members = .ok given' →
    ∀ {k : String} {j : Json}, (k, some j) ∈ given' → (k, some j) ∈ given ∨
      ∃ m ∈ members, m.1.text = .ok k ∧ ∃ p s, (k, p, s) ∈ fields ∧ read s m.2 = .ok j
  | [], _, _, h, _, _, hk => by
    cases h
    exact .inl hk
  | m :: members, given, given', h, k, j, hk => by
    unfold givenIn at h
    obtain ⟨k', hk', h⟩ := bind_eq_ok.1 h
    have hrest : ∀ {given}, givenIn read strict fields given members = .ok given' → (k, some j) ∈ given ∨
        ∃ m' ∈ m :: members, m'.1.text = .ok k ∧ ∃ p s, (k, p, s) ∈ fields ∧ read s m'.2 = .ok j := by
      intro given h
      rcases given_of_givenIn h hk with hk | ⟨m', hm', hsaid⟩
      · exact .inl hk
      · exact .inr ⟨m', List.mem_cons_of_mem _ hm', hsaid⟩
    split at h
    · -- a member that is no field gives nothing
      obtain ⟨⟨⟩, -, h⟩ := bind_eq_ok.1 h
      exact hrest h
    · rename_i p s hlookup
      split at h
      · cases h
      · obtain ⟨value, hvalue, h⟩ := bind_eq_ok.1 h
        rcases hrest h with hk | hsaid
        · rcases List.mem_append.1 hk with hk | hk
          · exact .inl hk
          · cases List.mem_singleton.1 hk
            exact .inr ⟨m, List.mem_cons_self .., hk', p, s, mem_of_lookup hlookup, fieldOf_eq_some hvalue⟩
        · exact .inr hsaid

/-- By induction on the fields: a member of a record was given, or stands for a field that nothing gives. -/
theorem given_of_membersOf {given : List (String × Option Json)} : ∀ {fields : List (String × Presence × Shape)}
    {members : List (String × Json)}, membersOf given fields = .ok members → ∀ {k : String} {j : Json},
    (k, j) ∈ members → (k, some j) ∈ given ∨ ∃ p s, (k, p, s) ∈ fields ∧ p ≠ .optional ∧ j = s.zero
  | [], _, h, _, _, hk => by
    cases h
    cases hk
  | (k', p, s) :: fields, members, h, k, j, hk => by
    obtain ⟨value, rest, hvalue, hrest, rfl⟩ : ∃ value rest,
        (given.reverse.lookup k' = some value ∨ absent p s = .ok value) ∧ membersOf given fields = .ok rest ∧
          members = Json.member? k' value ++ rest := by
      unfold membersOf at h
      simp only at h
      split at h
      · rename_i hlookup
        obtain ⟨value, ⟨⟩, h⟩ := bind_eq_ok.1 h
        obtain ⟨rest, hrest, h⟩ := bind_eq_ok.1 h
        cases h
        exact ⟨_, rest, .inl hlookup, hrest, rfl⟩
      · obtain ⟨value, hvalue, h⟩ := bind_eq_ok.1 h
        obtain ⟨rest, hrest, h⟩ := bind_eq_ok.1 h
        cases h
        exact ⟨value, rest, .inr hvalue, hrest, rfl⟩
    rcases List.mem_append.1 hk with hk | hk
    · obtain ⟨rfl, rfl⟩ := mem_member?.1 hk
      rcases hvalue with hlookup | habsent
      · exact .inl (List.mem_reverse.1 (mem_of_lookup hlookup))
      · obtain ⟨hp, hj⟩ := absent_eq_some habsent
        exact .inr ⟨p, s, List.mem_cons_self .., hp, hj⟩
    · rcases given_of_membersOf hrest hk with hk | ⟨p', s', hmem, hp, hj⟩
      · exact .inl hk
      · exact .inr ⟨p', s', List.mem_cons_of_mem _ hmem, hp, hj⟩

/-- What a record is read with for a field is what the text says there, or the zero value of a field that need not be
left out. -/
theorem said_of_ofDraft {depth : Nat} {d : Draft} {j : Json} (hd : d.Plain)
    (h : (object fields).ofDraft depth d = .ok j) {k : String} {v : Json} (hv : j.get? k = some v) :
    (∃ p s m depth, (k, p, s) ∈ fields ∧ d.Has k m ∧ m.Plain ∧ s.ofDraft depth m = .ok v) ∨
      ∃ p s, (k, p, s) ∈ fields ∧ p ≠ .optional ∧ v = s.zero := by
  cases hd with
  | @scalar value passed hscalar =>
    -- a scalar has no members
    unfold ofDraft at h
    obtain ⟨j', hj', h⟩ := bind_eq_ok.1 h
    have hnone : (object fields).read? j' = none := by
      unfold object read?
      cases hscalar j' hj' <;> rfl
    rw [hnone] at h
    cases h
  | list hitems =>
    cases depth with
    | zero => cases h
    | succ depth => cases h
  | @object members passed hmembers =>
    cases depth with
    | zero => cases h
    | succ depth =>
      unfold object ofDraft at h
      obtain ⟨given, hgiven, h⟩ := bind_eq_ok.1 h
      obtain ⟨ms, hms, h⟩ := bind_eq_ok.1 h
      cases h
      have hmem : (k, v) ∈ ms := Assoc.mem_ofBindings (Assoc.mem_of_get? hv)
      rcases given_of_membersOf hms hmem with hk | hzero
      · rcases given_of_givenIn hgiven hk with hk | ⟨m, hm, hkey, p, s, hfield, hread⟩
        · cases hk
        · exact .inl ⟨p, s, m.2, depth, hfield, ⟨members, passed, m.1, rfl, hm, hkey⟩, hmembers m hm, hread⟩
      · exact .inr hzero

end Shape

end AccessGate
