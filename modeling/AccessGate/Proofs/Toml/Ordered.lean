/-
The order of members in TOML. Tables keep their members ascending while a document is read, whichever
headers and dotted keys they come from, and the document that results is ordered (`ordered_of_parse?`).
-/
import AccessGate.Proofs.Json.Ordered
import AccessGate.Toml.Document

namespace AccessGate.Toml

open Json (Ordered)

/-! ## Tables -/

/-- Whether the members of every table ascend, and all values are ordered. -/
inductive Node.Ordered : Node → Prop
  | value {j : Json} : j.Ordered → Ordered (.value j)
  | table {o : Origin} {ms : Members} : ms.Ascending → (∀ m ∈ ms, Ordered m.2) → Ordered (.table o ms)
  | tables {ts : List Members} : (∀ t ∈ ts, Assoc.Ascending t) → (∀ t ∈ ts, ∀ m ∈ t, Ordered m.2) → Ordered (.tables ts)

/-- Whether the members of a table ascend, and those of all tables in it. -/
structure Members.Ordered (ms : Members) : Prop where
  ascending : ms.Ascending
  nodes : ∀ m ∈ ms, m.2.Ordered

namespace Members.Ordered

theorem nil : Members.Ordered [] :=
  ⟨List.Pairwise.nil, by simp⟩

theorem table {ms : Members} (h : ms.Ordered) (o : Origin) : Node.Ordered (.table o ms) :=
  .table h.ascending h.nodes

theorem insert {ms : Members} (h : ms.Ordered) (k : String) {n : Node} (hn : n.Ordered) :
    Members.Ordered (ms.insert k n) := by
  refine ⟨h.ascending.insert k n, ?_⟩
  intro m hm
  rcases Assoc.mem_insert hm with rfl | hm
  · exact hn
  · exact h.nodes m hm

theorem get? {ms : Members} (h : ms.Ordered) {k : String} {n : Node} (hn : Assoc.get? ms k = some n) : n.Ordered :=
  h.nodes _ (Assoc.mem_of_get? hn)

/-- By induction on the path: what a change at its end keeps ordered stays so in all tables on the way. -/
theorem change {made : Origin} {f : Origin → Members → Option Members}
    (hf : ∀ {o : Origin} {ms ms' : Members}, ms.Ordered → f o ms = some ms' → ms'.Ordered) :
    ∀ {path : List String} {here : Origin} {ms ms' : Members}, ms.Ordered →
      ms.change made f here path = some ms' → ms'.Ordered
  | [], _, _, _, h, hc => hf h hc
  | k :: path, _, ms, ms', h, hc => by
    unfold Members.change at hc
    split at hc
    · -- a table that is made on the way starts without members
      obtain ⟨t, ht, rfl⟩ := Option.map_eq_some_iff.1 hc
      have ht : Members.Ordered t := change hf nil ht
      exact h.insert k (ht.table made)
    · cases hc
    · -- of the tables of an array the last one is changed
      rename_i ts hts
      split at hc
      · cases hc
      · rename_i last hlast
        obtain ⟨t, ht, rfl⟩ := Option.map_eq_some_iff.1 hc
        have hmem : last ∈ ts := List.mem_of_getLast? hlast
        cases h.get? hts with
        | tables hasc hnodes =>
          have ht : Members.Ordered t := change hf ⟨hasc _ hmem, hnodes _ hmem⟩ ht
          have hin : ∀ t' ∈ ts.dropLast ++ [t], t' ∈ ts ∨ t' = t := by
            intro t' ht'
            rcases List.mem_append.1 ht' with ht' | ht'
            · exact .inl (List.dropLast_subset ts ht')
            · exact .inr (List.mem_singleton.1 ht')
          apply h.insert k
          apply Node.Ordered.tables
          · intro t' ht'
            rcases hin t' ht' with hmem' | rfl
            · exact hasc t' hmem'
            · exact ht.ascending
          · intro t' ht'
            rcases hin t' ht' with hmem' | rfl
            · exact hnodes t' hmem'
            · exact ht.nodes
    · rename_i o t ht
      split at hc
      · cases hc
      · obtain ⟨t', ht', rfl⟩ := Option.map_eq_some_iff.1 hc
        cases h.get? ht with
        | table hasc hnodes =>
          have ht' : Members.Ordered t' := change hf ⟨hasc, hnodes⟩ ht'
          exact h.insert k (ht'.table o)

variable {ms ms' : Members} {path : List String} {k : String}

theorem add {here : Origin} {v : Json} (hv : v.Ordered) (h : ms.Ordered) (hc : ms.add here path k v = some ms') :
    ms'.Ordered := by
  apply change ?_ h hc
  intro o t t' ht hf
  split at hf
  · cases hf
  · split at hf
    · cases hf
    · cases hf
      exact ht.insert k (.value hv)

theorem addUnder {header : List String} {v : Json} (hv : v.Ordered) (h : ms.Ordered)
    (hc : ms.addUnder header path k v = some ms') : ms'.Ordered := by
  apply change ?_ h hc
  intro o t t' ht hf
  exact ht.add hv hf

theorem openTable (h : ms.Ordered) (hc : ms.openTable path k = some ms') : ms'.Ordered := by
  apply change ?_ h hc
  intro o t t' ht hf
  split at hf
  · cases hf
    exact ht.insert k (nil.table .header)
  · rename_i u hu
    cases hf
    cases ht.get? hu with
    | table hasc hnodes => exact ht.insert k (.table hasc hnodes)
  · cases hf

theorem openItem (h : ms.Ordered) (hc : ms.openItem path k = some ms') : ms'.Ordered := by
  apply change ?_ h hc
  intro o t t' ht hf
  split at hf
  · cases hf
    exact ht.insert k (.tables (by simp [Assoc.Ascending]) (by simp))
  · rename_i ts hts
    cases hf
    cases ht.get? hts with
    | tables hasc hnodes =>
      apply ht.insert k
      apply Node.Ordered.tables
      · intro u hu
        rcases List.mem_append.1 hu with hu | hu
        · exact hasc u hu
        · obtain rfl := List.mem_singleton.1 hu
          exact List.Pairwise.nil
      · intro u hu
        rcases List.mem_append.1 hu with hu | hu
        · exact hnodes u hu
        · obtain rfl := List.mem_singleton.1 hu
          simp
  · cases hf

end Members.Ordered

theorem membersJson_eq (ms : List (String × Node)) : membersJson ms = ms.map fun m => (m.1, m.2.toJson) := by
  induction ms with
  | nil => rfl
  | cons m ms ih => rw [membersJson, List.map_cons, ih]

theorem tablesJson_eq (ts : List (List (String × Node))) : tablesJson ts = ts.map fun t => .obj (membersJson t) := by
  induction ts with
  | nil => rfl
  | cons t ts ih => rw [tablesJson, List.map_cons, ih]

theorem ordered_membersJson {ms : Members} (ha : ms.Ascending) (hn : ∀ m ∈ ms, m.2.toJson.Ordered) :
    Json.Ordered (.obj (membersJson ms)) := by
  rw [membersJson_eq]
  apply Json.Ordered.obj
  · exact List.pairwise_map.2 ha
  · intro f hf
    obtain ⟨m, hm, rfl⟩ := List.mem_map.1 hf
    exact hn m hm

theorem Node.Ordered.toJson {n : Node} (h : n.Ordered) : n.toJson.Ordered := by
  induction h with
  | value hj => exact hj
  | table ha _ ih => exact ordered_membersJson ha ih
  | tables ha _ ih =>
    rw [Node.toJson, tablesJson_eq]
    apply Json.Ordered.arr
    intro j hj
    obtain ⟨t, ht, rfl⟩ := List.mem_map.1 hj
    exact ordered_membersJson (ha t ht) (ih t ht)

/-! ## Values -/

theorem ordered_floatJson (x : Binary64) : (floatJson x).Ordered := by
  unfold floatJson
  split
  · exact .float x
  · exact .null

theorem ordered_of_integerOf? {i : Int} {j : Json} (h : integerOf? i = some j) : j.Ordered := by
  unfold integerOf? at h
  split at h
  · cases h
    exact .int i
  · cases h

theorem ordered_of_number? {s : List Char} {r : Json × List Char} (h : number? s = some r) : r.1.Ordered := by
  unfold number? at h
  split at h
  · obtain ⟨x, -, rfl⟩ := Option.map_eq_some_iff.1 h
    exact ordered_floatJson x
  · rcases Option.or_eq_some_iff.1 h with h | ⟨-, h⟩
    · unfold specialFloat? at h
      split at h
      · cases h
        exact .null
      · cases h
        exact .null
      · cases h
    · unfold integer? at h
      split at h
      · simp only [Option.bind_eq_bind, Option.bind_eq_some_iff] at h
        obtain ⟨ds, -, j, hj, ⟨⟩⟩ := h
        exact ordered_of_integerOf? hj
      · simp only [Option.bind_eq_bind, Option.bind_eq_some_iff] at h
        obtain ⟨ds, -, j, hj, ⟨⟩⟩ := h
        exact ordered_of_integerOf? hj

theorem ordered_of_dateTime? {s : List Char} {r : Json × List Char} (h : dateTime? s = some r) : r.1.Ordered := by
  obtain ⟨rest, -, rfl⟩ := Option.map_eq_some_iff.1 h
  apply Json.Ordered.obj
  · exact List.pairwise_singleton ..
  · intro f hf
    obtain rfl := List.mem_singleton.1 hf
    exact .str _

section Readers

variable {fuel : Nat}

theorem ordered_value_succ (ihitems : ∀ depth s r, items fuel depth s = some r → ∀ j ∈ r.1, j.Ordered)
    (ihmembers : ∀ depth ms s r, members fuel depth ms s = some r → ms.Ordered → r.1.Ordered) (depth : Nat)
    (s : List Char) (r : Json × List Char) (h : value (fuel + 1) depth s = some r) : r.1.Ordered := by
  unfold value at h
  split at h
  · obtain ⟨t, -, rfl⟩ := Option.map_eq_some_iff.1 h
    exact .str _
  · obtain ⟨t, -, rfl⟩ := Option.map_eq_some_iff.1 h
    exact .str _
  · cases h
    exact .bool true
  · cases h
    exact .bool false
  · split at h
    · cases h
    · obtain ⟨x, hx, rfl⟩ := Option.map_eq_some_iff.1 h
      exact .arr (ihitems _ _ _ hx)
  · split at h
    · cases h
    · split at h
      · cases h
        exact .obj List.Pairwise.nil (by simp)
      · obtain ⟨x, hx, rfl⟩ := Option.map_eq_some_iff.1 h
        exact ((ihmembers _ _ _ _ hx .nil).table .header).toJson
  · rcases Option.or_eq_some_iff.1 h with h | ⟨-, h⟩
    · exact ordered_of_dateTime? h
    · exact ordered_of_number? h

theorem ordered_items_succ (ihvalue : ∀ depth s r, value fuel depth s = some r → r.1.Ordered)
    (ihitems : ∀ depth s r, items fuel depth s = some r → ∀ j ∈ r.1, j.Ordered) (depth : Nat) (s : List Char)
    (r : List Json × List Char) (h : items (fuel + 1) depth s = some r) : ∀ j ∈ r.1, j.Ordered := by
  unfold items at h
  split at h
  · cases h
    simp
  · simp only [Option.bind_eq_bind, Option.bind_eq_some_iff] at h
    obtain ⟨x, hx, h⟩ := h
    have hx := ihvalue _ _ _ hx
    split at h
    · cases h
      simpa using hx
    · simp only [Option.bind_eq_some_iff] at h
      obtain ⟨xs, hxs, ⟨⟩⟩ := h
      have hxs := ihitems _ _ _ hxs
      exact List.forall_mem_cons.2 ⟨hx, hxs⟩
    · cases h

theorem ordered_members_succ (ihvalue : ∀ depth s r, value fuel depth s = some r → r.1.Ordered)
    (ihmembers : ∀ depth ms s r, members fuel depth ms s = some r → ms.Ordered → r.1.Ordered) (depth : Nat)
    (ms : Members) (s : List Char) (r : Members × List Char) (h : members (fuel + 1) depth ms s = some r)
    (hms : ms.Ordered) : r.1.Ordered := by
  unfold members at h
  simp only [Option.bind_eq_bind, Option.bind_eq_some_iff] at h
  obtain ⟨k, -, rest, -, v, hv, ms', hms', h⟩ := h
  have hms' := hms.add (ihvalue _ _ _ hv) hms'
  split at h
  · cases h
    exact hms'
  · exact ihmembers _ _ _ _ h hms'
  · cases h

end Readers

/-- By induction on the fuel, for values, items and members at once. -/
theorem ordered_value : ∀ (fuel : Nat),
    (∀ depth s r, value fuel depth s = some r → r.1.Ordered) ∧
    (∀ depth s r, items fuel depth s = some r → ∀ j ∈ r.1, j.Ordered) ∧
    ∀ depth ms s r, members fuel depth ms s = some r → ms.Ordered → r.1.Ordered
  | 0 => by
    refine ⟨fun depth s r h => ?_, fun depth s r h => ?_, fun depth ms s r h => ?_⟩
    · unfold value at h
      cases h
    · unfold items at h
      cases h
    · unfold members at h
      cases h
  | fuel + 1 => by
    obtain ⟨ihvalue, ihitems, ihmembers⟩ := ordered_value fuel
    exact ⟨ordered_value_succ ihitems ihmembers, ordered_items_succ ihvalue ihitems,
      ordered_members_succ ihvalue ihmembers⟩

/-! ## Documents -/

theorem Draft.ordered_line? {d : Draft} {s : List Char} {r : Draft × List Char} (h : d.line? s = some r)
    (hd : d.members.Ordered) : r.1.members.Ordered := by
  unfold line? at h
  split at h
  all_goals simp only [Option.bind_eq_bind, Option.bind_eq_some_iff] at h
  · obtain ⟨k, -, ms, hms, ⟨⟩⟩ := h
    exact hd.openItem hms
  · obtain ⟨k, -, ms, hms, ⟨⟩⟩ := h
    exact hd.openTable hms
  · obtain ⟨k, -, rest, -, v, hv, ms, hms, ⟨⟩⟩ := h
    exact hd.addUnder ((ordered_value _).1 _ _ _ hv) hms

theorem Draft.ordered_lines : ∀ (fuel : Nat) {d d' : Draft} {s : List Char}, Draft.lines fuel d s = some d' →
    d.members.Ordered → d'.members.Ordered
  | 0, _, _, _, h, _ => by cases h
  | fuel + 1, d, d', s, h, hd => by
    unfold lines at h
    split at h
    · cases h
      exact hd
    · split at h
      · cases h
        exact hd
      · cases h
    · simp only [Option.bind_eq_bind, Option.bind_eq_some_iff] at h
      obtain ⟨r, hr, rest, -, h⟩ := h
      exact ordered_lines fuel h (ordered_line? hr hd)

/-- A document that was read from a text is ordered. -/
theorem ordered_of_parse? {s : String} {j : Json} (h : parse? s = some j) : j.Ordered := by
  obtain ⟨d, hd, rfl⟩ := Option.map_eq_some_iff.1 h
  have hmembers := Draft.ordered_lines _ hd .nil
  exact (hmembers.table .header).toJson

end AccessGate.Toml
