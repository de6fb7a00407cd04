/-
What is read against a shape is read again as itself. A shape has this if its parts have it (`Settled`). A
record of distinct fields is given by what is found under each of them (`read?_object`).
-/
import AccessGate.Kind.Shape
import AccessGate.Proofs.Assoc
import AccessGate.Proofs.Text.Timestamp

namespace AccessGate

/-- Whether what is read is read again as itself, and is null only if null was read. -/
structure Settled (read : Json → Option Json) : Prop where
  again : ∀ {j j'}, read j = some j' → read j' = some j'
  null : ∀ {j}, read j = some .null → j = .null

/-! ## Fields -/

namespace Presence

variable {p : Presence} {zero : Json} {read : Json → Option Json}

theorem read?_self {j : Json} (h : read j = some j) (hj : j ≠ .null) :
    p.read? zero read (some j) = some (some j) := by
  unfold read?
  split <;> simp_all

/-- The value of a field is read again as itself, if the zero value is, should it ever be written. -/
theorem read?_again (h : Settled read) (hz : p = .optional ∨ read zero = some zero) {given value : Option Json}
    (hr : p.read? zero read given = some value) : p.read? zero read value = some value := by
  -- a value that was read is null only for a field whose null is read
  have given_some : ∀ {j}, j ≠ .null → (read j).map some = some value → p.read? zero read value = some value := by
    intro j hj hr
    obtain ⟨j', hj', rfl⟩ := Option.map_eq_some_iff.1 hr
    exact read?_self (h.again hj') fun hnull => hj (h.null (hnull ▸ hj'))
  cases p with
  | optional =>
    cases given with
    | none => cases hr; rfl
    | some j => cases j with
      | null => cases hr; rfl
      | _ => exact given_some (by simp) hr
  | filled =>
    have hzero : read zero = some zero := hz.resolve_left (by simp)
    have filled_zero : some (some zero) = some value → filled.read? zero read value = some value := by
      rintro ⟨⟩
      by_cases hnull : zero = .null
      · rw [hnull]
        rfl
      · exact read?_self hzero hnull
    cases given with
    | none => exact filled_zero hr
    | some j => cases j with
      | null => exact filled_zero hr
      | _ => exact given_some (by simp) hr
  | defaulted =>
    have hzero : read zero = some zero := hz.resolve_left (by simp)
    cases given with
    | none =>
      cases hr
      exact Option.map_eq_some_iff.2 ⟨zero, hzero, rfl⟩
    | some j =>
      obtain ⟨j', hj', rfl⟩ := Option.map_eq_some_iff.1 hr
      exact Option.map_eq_some_iff.2 ⟨j', h.again hj', rfl⟩
  | mandatory =>
    cases given with
    | none => cases hr
    | some j =>
      obtain ⟨j', hj', rfl⟩ := Option.map_eq_some_iff.1 hr
      exact Option.map_eq_some_iff.2 ⟨j', h.again hj', rfl⟩

end Presence

namespace Shape

theorem mem_member? {k : String} {v : Option Json} {b : String × Json} :
    b ∈ Json.member? k v ↔ b.1 = k ∧ v = some b.2 := by
  cases v with
  | none => simp [Json.member?]
  | some j => simp [Json.member?, Prod.ext_iff, eq_comm]

/-- Whether a field is written with this value when it was given that one. -/
def FieldReads (f : String × Presence × Shape) (given value : Option Json) : Prop :=
  f.2.1.read? f.2.2.zero (f.2.2.read? ·) given = some value

theorem FieldReads.again {f : String × Presence × Shape} (h : Settled f.2.2.read?)
    (hz : f.2.1 = .optional ∨ f.2.2.read? f.2.2.zero = some f.2.2.zero) {given value : Option Json}
    (hr : FieldReads f given value) : FieldReads f value value :=
  Presence.read?_again h hz hr

/-- The members of a record with these values, in the order of its fields. -/
def membersWith (fields : List (String × Presence × Shape)) (values : String → Option Json) : List (String × Json) :=
  fields.flatMap fun f => Json.member? f.1 (values f.1)

theorem membersWith_congr {fields : List (String × Presence × Shape)} {values values' : String → Option Json}
    (h : ∀ f ∈ fields, values f.1 = values' f.1) : membersWith fields values = membersWith fields values' := by
  unfold membersWith
  rw [List.flatMap_def, List.flatMap_def, List.map_congr_left fun f hf => by rw [h f hf]]

theorem mem_membersWith {fields : List (String × Presence × Shape)} {values : String → Option Json}
    {b : String × Json} : b ∈ membersWith fields values ↔ b.1 ∈ fields.map Prod.fst ∧ values b.1 = some b.2 := by
  unfold membersWith
  rw [List.mem_flatMap, List.mem_map]
  constructor
  · rintro ⟨f, hf, hb⟩
    obtain ⟨hk, hv⟩ := mem_member?.1 hb
    exact ⟨⟨f, hf, hk.symm⟩, hk ▸ hv⟩
  · rintro ⟨⟨f, hf, hk⟩, hv⟩
    exact ⟨f, hf, mem_member?.2 ⟨hk.symm, hk ▸ hv⟩⟩

/-- The values of a record are found under their fields, and nothing else is. -/
theorem get?_ofBindings_membersWith {fields : List (String × Presence × Shape)} {values : String → Option Json}
    (h : ∀ k, k ∉ fields.map Prod.fst → values k = none) (k : String) :
    (Assoc.ofBindings (membersWith fields values)).get? k = values k := by
  rw [Assoc.get?_ofBindings]
  cases hget : Assoc.get? (membersWith fields values).reverse k with
  | some j => exact (mem_membersWith.1 (List.mem_reverse.1 (Assoc.mem_of_get? hget))).2.symm
  | none =>
    cases hv : values k with
    | none => rfl
    | some j =>
      have hk : k ∈ fields.map Prod.fst := Decidable.byContradiction fun hk => by
        rw [h k hk] at hv
        cases hv
      refine absurd ?_ (Assoc.get?_eq_none_iff.1 hget)
      exact List.mem_map.2 ⟨(k, j), List.mem_reverse.2 (mem_membersWith.2 ⟨hk, hv⟩), rfl⟩

theorem readFields?_cons (f : String × Presence × Shape) (rest : List (String × Presence × Shape))
    (given : Assoc String Json) :
    readFields? (f :: rest) given = (f.2.1.read? f.2.2.zero (f.2.2.read? ·) (given.get? f.1)).bind fun value =>
      (readFields? rest given).bind fun members => some (Json.member? f.1 value ++ members) := by
  obtain ⟨k, p, s⟩ := f
  rw [readFields?]
  rfl

theorem readFields?_of_reads {given : Assoc String Json} {values : String → Option Json} :
    ∀ {fields : List (String × Presence × Shape)}, (∀ f ∈ fields, FieldReads f (given.get? f.1) (values f.1)) →
      readFields? fields given = some (membersWith fields values)
  | [], _ => by
    unfold readFields?
    rfl
  | f :: rest, h => by
    obtain ⟨hf, hrest⟩ := List.forall_mem_cons.1 h
    rw [readFields?_cons, show _ = some (values f.1) from hf, readFields?_of_reads hrest]
    rfl

/-- By induction on the fields: the value that was read first belongs to a name that does not come again. -/
theorem reads_of_readFields? {given : Assoc String Json} : ∀ {fields : List (String × Presence × Shape)}
    {members : List (String × Json)}, (fields.map Prod.fst).Nodup → readFields? fields given = some members →
    ∃ values : String → Option Json, (∀ f ∈ fields, FieldReads f (given.get? f.1) (values f.1)) ∧
      (∀ k, k ∉ fields.map Prod.fst → values k = none) ∧ members = membersWith fields values
  | [], members, _, h => by
    unfold readFields? at h
    cases h
    exact ⟨fun _ => none, by simp, fun _ _ => rfl, rfl⟩
  | f :: rest, members, hn, h => by
    obtain ⟨hk, hn⟩ := List.nodup_cons.1 hn
    simp only [readFields?_cons, Option.bind_eq_some_iff] at h
    obtain ⟨value, hvalue, restMembers, hrest, hmembers⟩ := h
    obtain ⟨values, hreads, hnone, rfl⟩ := reads_of_readFields? hn hrest
    have hne : ∀ f' ∈ rest, f'.1 ≠ f.1 := fun f' hf' he => hk (List.mem_map.2 ⟨f', hf', he⟩)
    refine ⟨fun k => if k = f.1 then value else values k, ?_, ?_, ?_⟩
    · refine List.forall_mem_cons.2 ⟨?_, fun f' hf' => ?_⟩
      · simpa [FieldReads] using hvalue
      · simpa [hne f' hf'] using hreads f' hf'
    · intro k hk
      obtain ⟨hkf, hkrest⟩ := not_or.1 (mt List.mem_cons.2 hk)
      simpa [hkf] using hnone k hkrest
    · cases hmembers
      have hsame : membersWith rest (fun k => if k = f.1 then value else values k) = membersWith rest values :=
        membersWith_congr fun f' hf' => if_neg (hne f' hf')
      show _ = Json.member? f.1 (if f.1 = f.1 then value else values f.1) ++ membersWith rest
        (fun k => if k = f.1 then value else values k)
      rw [if_pos rfl, hsame]

/-- A document of a record is given by the values of the fields: each is the one that its field reads, and there are
no others. -/
theorem read?_object {fields : List (String × Presence × Shape)} (hn : (fields.map Prod.fst).Nodup) {j j' : Json} :
    (object fields).read? j = some j' ↔ ∃ given m : Assoc String Json, j = .obj given ∧ j' = .obj m ∧ m.Ascending ∧
      (∀ f ∈ fields, FieldReads f (given.get? f.1) (m.get? f.1)) ∧
      ∀ k, k ∉ fields.map Prod.fst → m.get? k = none := by
  have hread : (object fields).read? j =
      j.asFields?.bind fun given => (readFields? fields given).bind fun members => some (.object members) := by
    unfold object read?
    rfl
  rw [hread]
  simp only [Option.bind_eq_some_iff]
  constructor
  · rintro ⟨given, hgiven, members, hmembers, ⟨⟩⟩
    obtain ⟨values, hreads, hnone, rfl⟩ := reads_of_readFields? hn hmembers
    have hget := get?_ofBindings_membersWith hnone
    refine ⟨given, _, ?_, rfl, Assoc.ascending_ofBindings _, fun f hf => ?_, fun k hk => ?_⟩
    · cases j <;> cases hgiven
      rfl
    · rw [hget]
      exact hreads f hf
    · rw [hget, hnone k hk]
  · rintro ⟨given, m, rfl, rfl, hm, hreads, hnone⟩
    refine ⟨given, rfl, _, readFields?_of_reads hreads, ?_⟩
    have hsame : Assoc.ofBindings (membersWith fields fun k => m.get? k) = m :=
      (Assoc.ascending_ofBindings _).ext_get? hm (get?_ofBindings_membersWith hnone)
    exact congrArg (fun m => some (Json.obj m)) hsame

/-! ## Shapes that are read again as themselves -/

/-- What is only ever read as itself is settled. -/
theorem settled_of_same {read : Json → Option Json} (h : ∀ {j j'}, read j = some j' → j' = j) : Settled read := by
  constructor
  · intro j j' hr
    obtain rfl := h hr
    exact hr
  · intro j hr
    exact (h hr).symm

theorem settled_anything : Settled anything.read? := by
  refine settled_of_same fun {j j'} h => ?_
  cases j <;> cases h <;> rfl

theorem settled_text : Settled text.read? := by
  refine settled_of_same fun {j j'} h => ?_
  cases j <;> cases h
  rfl

theorem settled_flag : Settled flag.read? := by
  refine settled_of_same fun {j j'} h => ?_
  cases j <;> cases h
  rfl

theorem settled_integer (bits : Nat) : Settled (integer bits).read? := by
  refine settled_of_same fun {j j'} h => ?_
  cases j with
  | int i =>
    unfold read? at h
    split at h
    · cases h
      rfl
    · cases h
  | _ => cases h

/-- What is written for a time is read as a time that is written the same. -/
theorem settled_time : Settled time.read? := by
  constructor
  · intro j j' h
    cases j with
    | str text =>
      obtain ⟨t, ht, rfl⟩ := Option.map_eq_some_iff.1 h
      have hr := Text.Timestamp.readable_of_parse? ht
      have hp := Text.Timestamp.parse?_render hr
      exact Option.map_eq_some_iff.2 ⟨_, hp, congrArg Json.str (Text.Timestamp.render_of_parse?_render hr hp)⟩
    | _ => cases h
  · intro j h
    cases j with
    | str text =>
      obtain ⟨t, -, ht⟩ := Option.map_eq_some_iff.1 h
      cases ht
    | _ => cases h

/-- If what is read from an item is read again as itself, so is what is read from a list of items. -/
theorem mapM_again {α : Type} {read : α → Option α} (h : ∀ {a b}, read a = some b → read b = some b) :
    ∀ {xs ys : List α}, xs.mapM read = some ys → ys.mapM read = some ys
  | [], ys, hm => by
    cases hm
    rfl
  | x :: xs, ys, hm => by
    simp only [List.mapM_cons, Option.bind_eq_bind, Option.bind_eq_some_iff] at hm
    obtain ⟨y, hy, ys, hys, ⟨⟩⟩ := hm
    simp only [List.mapM_cons, Option.bind_eq_bind, h hy, mapM_again h hys, Option.bind_some]
    rfl

theorem settled_list {item : Shape} (h : Settled item.read?) : Settled (list item).read? := by
  constructor
  · intro j j' hr
    cases j with
    | arr xs =>
      obtain ⟨ys, hys, rfl⟩ := Option.map_eq_some_iff.1 hr
      exact Option.map_eq_some_iff.2 ⟨ys, mapM_again h.again hys, rfl⟩
    | _ => cases hr
  · intro j hr
    cases j with
    | arr xs =>
      obtain ⟨ys, -, hys⟩ := Option.map_eq_some_iff.1 hr
      cases hys
    | _ => cases hr

theorem settled_dict {value : Shape} (h : Settled value.read?) : Settled (dict value).read? := by
  have again : ∀ {f f' : String × Json}, (value.read? f.2).map (f.1, ·) = some f' →
      (value.read? f'.2).map (f'.1, ·) = some f' := by
    intro f f' hf
    obtain ⟨v, hv, rfl⟩ := Option.map_eq_some_iff.1 hf
    exact Option.map_eq_some_iff.2 ⟨v, h.again hv, rfl⟩
  constructor
  · intro j j' hr
    cases j with
    | obj fields =>
      obtain ⟨fields', hf, rfl⟩ := Option.map_eq_some_iff.1 hr
      exact Option.map_eq_some_iff.2 ⟨fields', mapM_again again hf, rfl⟩
    | _ => cases hr
  · intro j hr
    cases j with
    | obj fields =>
      obtain ⟨fields', -, hf⟩ := Option.map_eq_some_iff.1 hr
      cases hf
    | _ => cases hr

/-- What has to hold of the fields of a record for it to be read again as itself. -/
structure SettledFields (fields : List (String × Presence × Shape)) : Prop where
  distinct : (fields.map Prod.fst).Nodup
  settled : ∀ f ∈ fields, Settled f.2.2.read?
  zero : ∀ f ∈ fields, f.2.1 = .optional ∨ f.2.2.read? f.2.2.zero = some f.2.2.zero

theorem settled_object {fields : List (String × Presence × Shape)} (h : SettledFields fields) :
    Settled (object fields).read? := by
  constructor
  · intro j j' hr
    obtain ⟨given, m, rfl, rfl, hm, hreads, hnone⟩ := (read?_object h.distinct).1 hr
    exact (read?_object h.distinct).2
      ⟨m, m, rfl, rfl, hm, fun f hf => (hreads f hf).again (h.settled f hf) (h.zero f hf), hnone⟩
  · intro j hr
    obtain ⟨_, _, _, hj, _⟩ := (read?_object h.distinct).1 hr
    cases hj

end Shape

end AccessGate
