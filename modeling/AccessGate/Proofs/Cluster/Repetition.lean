/-
Patches that are sent again. What is read after a patch is settled member by member, and each member is read the same
when the patch is applied to what was stored after it; only what identifies the object is put back from the old one.
The kind is the exception: where an object is written with an `apiVersion` that is no text, its kind stays among its
data, and the version does not; so the next patch finds the kind alone and takes it off (`TypeNames.hidden_patched`).
Main statement: a merge patch says for each member what it becomes, a second one changes nothing, and an object that is
patched again with the same patch gets a new version and is otherwise the same, but for the kind of one that is written
with such a version (`merge_patch_idempotent`).
-/
import AccessGate.Proofs.Cluster.Documented
import AccessGate.Proofs.Cluster.Publication
import AccessGate.Proofs.Json.Merging

namespace AccessGate

open Json (change_cases mergedMember mergedMember_of_ne_null mergePatch_obj mergePatch_of_not_isObject
  mergePatch_mergePatch)

/-! ## Fields that are patched again -/

namespace Shape

/-- Whether an object is read as itself, if it has the shape. -/
def KeepsObjects (s : Shape) : Prop :=
  ∀ {fields : Assoc String Json} {j : Json}, s.read? (.obj fields) = some j → j = .obj fields

variable {f : String × Presence × Shape} {c old value : Option Json}

/-- A field that is read after a patch is read the same if what was read is patched. An object that the patch makes is
read as itself, so it is patched again; anything else that the patch gives does not depend on what was there. -/
theorem FieldReads.patched (hsettled : Settled f.2.2.read?) (hkeeps : KeepsObjects f.2.2) (hopt : f.2.1 = .optional)
    (hc : ∀ v ∈ c, v.Ordered) (h : FieldReads f (mergedMember old c) value) :
    FieldReads f (mergedMember value c) value := by
  rcases change_cases c with rfl | rfl | ⟨v, hv, rfl⟩
  · exact h.again hsettled (.inl hopt)
  · exact h
  · rw [mergedMember_of_ne_null hv] at h ⊢
    cases hobject : v.isObject with
    | false =>
      rw [mergePatch_of_not_isObject hobject] at h ⊢
      exact h
    | true =>
      obtain ⟨k, presence, s⟩ := f
      obtain rfl : presence = .optional := hopt
      obtain ⟨changes, rfl⟩ := Json.isObject_iff.1 hobject
      -- what was read is the object that the patch made
      have hvalue : value = some ((old.getD .null).mergePatch (.obj changes)) := by
        rw [mergePatch_obj] at h ⊢
        obtain ⟨j, hread, rfl⟩ := Option.map_eq_some_iff.1 h
        rw [hkeeps hread]
      have hagain : (value.getD .null).mergePatch (.obj changes) = (old.getD .null).mergePatch (.obj changes) := by
        rw [hvalue, Option.getD_some, mergePatch_mergePatch (hc _ rfl)]
      rwa [hagain]

/-- If a text could be read after a patch, one can be read after it whatever text was there, or none. -/
theorem exists_text_patched {k : String} (h : FieldReads (opt k .text) (mergedMember old c) value)
    (y : Option String) : ∃ z : Option String, FieldReads (opt k .text) (mergedMember (y.map .str) c) (z.map .str) := by
  rcases change_cases c with rfl | rfl | ⟨v, hv, rfl⟩
  · exact ⟨y, by cases y <;> rfl⟩
  · exact ⟨none, rfl⟩
  · rw [mergedMember_of_ne_null hv] at h ⊢
    -- a member that is set was read as text, so it was set to text
    cases v with
    | str s =>
      rw [mergePatch_of_not_isObject rfl]
      exact ⟨some s, rfl⟩
    | null => exact absurd rfl hv
    | obj changes =>
      rw [mergePatch_obj] at h
      cases h
    | _ =>
      rw [mergePatch_of_not_isObject rfl] at h
      cases h

end Shape

namespace Cluster

/-! ## Metadata that are patched again -/

namespace Metadata

open Shape

theorem keepsObjects_memberShapes : ∀ f ∈ memberShapes, KeepsObjects f.2.2 := by
  have labels : KeepsObjects (dict text) := fun h => (read?_labels_iff.1 h).1
  have others : ∀ s : Shape, (∀ fields, s.read? (.obj fields) = none) → KeepsObjects s := by
    intro s hs fields j h
    rw [hs] at h
    cases h
  unfold memberShapes
  simp only [List.forall_mem_cons]
  refine ⟨labels, others _ ?_, others _ ?_, others _ ?_, others _ ?_, others _ ?_, others _ ?_, labels, others _ ?_,
    others _ ?_, others _ ?_, others _ ?_, others _ ?_, others _ ?_, others _ ?_, List.forall_mem_nil _⟩
  all_goals exact fun _ => rfl

/-- The members of metadata that identify an object. -/
def identityMembers : List String :=
  ["name", "namespace", "uid", "resourceVersion"]

/-- Metadata as they are stored in the place of others. -/
def inPlaceOf (new old : Metadata) (version : String) : Metadata :=
  { new with name := old.name, ns := old.ns, uid := old.uid, resourceVersion := some version }

variable {m m' old : Metadata} {k : String}

theorem WellFormed.of_others (h : m.WellFormed) (others : m'.others = m.others) : m'.WellFormed := by
  obtain ⟨shaped, own⟩ := h
  rw [← others] at shaped own
  exact ⟨shaped, own⟩

theorem exists_ownMember?_identity (m : Metadata) (hk : k ∈ identityMembers) :
    ∃ x : Option String, m.ownMember? k = x.map .str := by
  simp only [identityMembers, List.mem_cons, List.not_mem_nil, or_false] at hk
  rcases hk with rfl | rfl | rfl | rfl
  all_goals exact ⟨_, rfl⟩

theorem shape_of_identity : ∀ f ∈ memberShapes, f.1 ∈ identityMembers → f = opt f.1 .text := by
  simp [memberShapes, identityMembers, opt]

theorem mem_memberShapes_of_identity (hk : k ∈ identityMembers) : opt k .text ∈ memberShapes := by
  obtain ⟨f, hf, rfl⟩ := List.mem_map.1 ((by decide : identityMembers ⊆ memberShapes.map Prod.fst) hk)
  exact shape_of_identity f hf hk ▸ hf

theorem identityMembers_subset : identityMembers ⊆ ownMembers := by
  decide

/-- A member that identifies an object, if it was read after a patch, is read after it in any metadata. -/
theorem exists_identity_patched (hk : k ∈ identityMembers) (hm : m.WellFormed) {old c value : Option Json}
    (h : FieldReads (opt k .text) (mergedMember old c) value) :
    ∃ x : Option String, FieldReads (opt k .text) (mergedMember (m.toJson.get? k) c) (x.map .str) := by
  obtain ⟨y, hy⟩ := exists_ownMember?_identity m hk
  rw [get?_toJson_own hm (identityMembers_subset hk), hy]
  exact exists_text_patched h y

/-- Metadata that differ only in what identifies an object are written the same but for that. -/
theorem get?_toJson_of_not_identity (h : m.WellFormed) (others : m'.others = m.others)
    (labels : m'.labels = m.labels) (generateName : m'.generateName = m.generateName) (hk : k ∉ identityMembers) :
    m'.toJson.get? k = m.toJson.get? k := by
  simp only [identityMembers, List.mem_cons, List.not_mem_nil, or_false, not_or] at hk
  obtain ⟨hname, hns, huid, hversion⟩ := hk
  rw [get?_toJson h, get?_toJson (h.of_others others), others]
  unfold ownMember?
  simp only [labels, generateName, if_neg hname, if_neg hns, if_neg huid, if_neg hversion]

/-- What an object of changes was applied to and was read as metadata then can be patched again, and only what
identifies the object is not read as before. -/
theorem exists_read_again {changes : Assoc String Json} (hordered : (Json.obj changes).Ordered) {given : Json}
    (hread : ofJson? (given.mergePatch (.obj changes)) = some m) (old : Metadata) (version : String) :
    ∃ m' : Metadata, ofJson? ((m.inPlaceOf old version).toJson.mergePatch (.obj changes)) = some m' ∧
      ∀ v, m'.inPlaceOf (m.inPlaceOf old version) v = m.inPlaceOf old v := by
  obtain ⟨-, hc⟩ := hordered.changes
  have hget : ∀ (t : Json) k, Assoc.get? (Json.mergeMembers (t.asFields?.getD []) changes) k =
      mergedMember (t.get? k) (changes.get? k) := by
    intro t k
    have hmember := Json.get?_mergePatch hordered rfl t k
    rwa [mergePatch_obj] at hmember
  rw [mergePatch_obj, ofJson?_obj_iff] at hread
  obtain ⟨hm, hreads⟩ := hread
  simp only [hget] at hreads
  have hstored : (m.inPlaceOf old version).WellFormed := hm.of_others rfl
  -- a text that identifies the object was read, so it is read again
  have hidentity : ∀ k ∈ identityMembers, ∃ x : Option String,
      FieldReads (opt k .text) (mergedMember ((m.inPlaceOf old version).toJson.get? k) (changes.get? k))
        (x.map .str) :=
    fun k hk => exists_identity_patched hk hstored (hreads _ (mem_memberShapes_of_identity hk))
  obtain ⟨name, hname⟩ := hidentity "name" (by decide)
  obtain ⟨ns, hns⟩ := hidentity "namespace" (by decide)
  obtain ⟨uid, huid⟩ := hidentity "uid" (by decide)
  obtain ⟨resourceVersion, hversion⟩ := hidentity "resourceVersion" (by decide)
  have hagain : WellFormed { m with name, ns, uid, resourceVersion } := hm.of_others rfl
  refine ⟨{ m with name, ns, uid, resourceVersion }, ?_, fun _ => rfl⟩
  rw [mergePatch_obj, ofJson?_obj_iff]
  refine ⟨hagain, fun f hf => ?_⟩
  rw [hget]
  by_cases hk : f.1 ∈ identityMembers
  · rw [get?_toJson_own hagain (identityMembers_subset hk), shape_of_identity f hf hk]
    simp only [identityMembers, List.mem_cons, List.not_mem_nil, or_false] at hk
    rcases hk with hk | hk | hk | hk
    all_goals
      rw [hk]
      assumption
  · have hpast : (m.inPlaceOf old version).toJson.get? f.1 = m.toJson.get? f.1 :=
      get?_toJson_of_not_identity hm rfl rfl rfl hk
    have hnow : (toJson { m with name, ns, uid, resourceVersion }).get? f.1 = m.toJson.get? f.1 :=
      get?_toJson_of_not_identity hm rfl rfl rfl hk
    rw [hpast, hnow]
    exact (hreads f hf).patched (settled_memberShapes.settled f hf) (keepsObjects_memberShapes f hf)
      (optional_memberShapes f hf) (hc f.1)

/-- Metadata that were read after a patch are read again, but for what identifies the object. -/
theorem ReadFrom.again {given c : Option Json} (hc : ∀ v ∈ c, v.Ordered) (h : m.ReadFrom (mergedMember given c))
    (old : Metadata) (version : String) :
    ∃ m' : Metadata, m'.ReadFrom (mergedMember (some (m.inPlaceOf old version).toJson) c) ∧
      ∀ v, m'.inPlaceOf (m.inPlaceOf old version) v = m.inPlaceOf old v := by
  rcases change_cases c with rfl | rfl | ⟨v, hv, rfl⟩
  · have hm : m.WellFormed := by
      rcases h with ⟨-, rfl⟩ | ⟨_, -, h⟩
      · exact wellFormed_empty
      · exact wellFormed_of_ofJson? h
    exact ⟨_, .inr ⟨_, rfl, ofJson?_toJson (hm.of_others rfl)⟩, fun _ => rfl⟩
  · rcases h with ⟨-, rfl⟩ | ⟨_, h, -⟩
    · exact ⟨{}, .inl ⟨rfl, rfl⟩, fun _ => rfl⟩
    · cases h
  · rw [mergedMember_of_ne_null hv] at h ⊢
    rcases h with ⟨h, -⟩ | ⟨_, ⟨⟩, h⟩
    · cases h
    · -- nothing but an object is read as metadata
      cases v with
      | obj changes =>
        obtain ⟨m', hread, hm'⟩ := exists_read_again (hc _ rfl) h old version
        exact ⟨m', .inr ⟨_, rfl, hread⟩, hm'⟩
      | _ =>
        rw [mergePatch_of_not_isObject rfl] at h
        cases h

end Metadata

/-! ## Names of a type that are patched again -/

namespace TypeNames

theorem asString?_mergePatch (t v : Json) : (t.mergePatch v).asString? = v.asString? := by
  cases v with
  | obj changes =>
    rw [mergePatch_obj]
    rfl
  | _ => rw [mergePatch_of_not_isObject rfl]

/-- Whether a member that a patch changes is text, and which, does not depend on what was there. -/
theorem asString?_mergedMember (old : Option Json) (v : Json) :
    (mergedMember old (some v)).bind Json.asString? = v.asString? := by
  by_cases hv : v = .null
  · subst hv
    rfl
  · rw [mergedMember_of_ne_null hv]
    exact asString?_mergePatch _ v

/-- Neither does it depend on that whether such a member stops the reading of names. -/
theorem stops_mergedMember (old old' : Option Json) (v : Json) :
    stops (mergedMember old (some v)) = stops (mergedMember old' (some v)) := by
  by_cases hv : v = .null
  · subst hv
    rfl
  · rw [mergedMember_of_ne_null hv, mergedMember_of_ne_null hv]
    unfold stops
    rw [Option.any_some, Option.any_some, asString?_mergePatch, asString?_mergePatch]

theorem ofMembers?_of_stops {apiVersion : Option Json} (h : stops apiVersion = true) (kind : Option Json) :
    ofMembers? apiVersion kind = none := by
  cases apiVersion with
  | none => cases h
  | some j =>
    have hj : j.asString? = none := Option.isNone_iff_eq_none.1 h
    unfold ofMembers?
    rw [Option.bind_some, hj]
    rfl

theorem stops_iff {j : Option Json} : stops j = true ↔ ∃ v, j = some v ∧ ∀ text, v ≠ .str text := by
  cases j with
  | none => simp [stops]
  | some v => cases v <;> simp [stops, Json.asString?]

/-- The members for the names of an object's type, the kind being hidden by one of its data. -/
def versionMember (types : Option TypeNames) : Option Json :=
  (types.map (·.apiVersion)).map .str

def kindMember (types : Option TypeNames) (hidden : Option Json) : Option Json :=
  hidden.or ((types.map (·.kind)).map .str)

/-- The names that an object is stored with after a patch, and the kind that is left among its data: from the names
that it had, its members `apiVersion` and `kind`, and what the patch has for both. -/
def patched (types : Option TypeNames) (apiVersion kind a k : Option Json) : Option TypeNames × Option Json :=
  let version := mergedMember apiVersion a
  let named := mergedMember kind k
  (types.or (ofMembers? version named), if stops version then named else none)

section Patched

variable {types types' : Option TypeNames} {apiVersion kind a k hidden : Option Json}

theorem stops_versionMember (types : Option TypeNames) : stops (versionMember types) = false := by
  cases types <;> rfl

/-- If there are no names after a patch, there are none after the next one. -/
theorem ofMembers?_patched (h : patched types apiVersion kind a k = (none, hidden)) :
    ofMembers? (mergedMember (versionMember none) a) (mergedMember (kindMember none hidden) k) = none := by
  obtain ⟨hnames, rfl⟩ := Prod.mk.inj h
  have hnone := (Option.or_eq_none_iff.1 hnames).2
  cases a with
  | none => rfl
  | some v =>
    by_cases hstops : stops (mergedMember apiVersion (some v)) = true
    · rw [stops_mergedMember _ (versionMember none)] at hstops
      exact ofMembers?_of_stops hstops _
    · -- the kind was taken off with the version, so nothing is left of it
      rw [if_neg hstops]
      cases k with
      | none => exact Option.bind_fun_none _
      | some w =>
        -- the patch says what both are, so they are the same texts as before, or none
        unfold ofMembers? at hnone ⊢
        rwa [asString?_mergedMember, asString?_mergedMember] at hnone ⊢

/-- Names stay if the patch is applied again. -/
theorem names_patched (h : patched types apiVersion kind a k = (types', hidden)) :
    (patched types' (versionMember types') (kindMember types' hidden) a k).1 = types' := by
  cases types' with
  | some n => rfl
  | none => exact ofMembers?_patched h

/-- Where a patch does not say the version, no kind is left of an object whose version is text or not there. -/
theorem hidden_patched_none (types : Option TypeNames) (hidden k : Option Json) :
    (patched types (versionMember types) (kindMember types hidden) none k).2 = none := by
  have hstops : ¬ stops (versionMember types) = true := by simp [stops_versionMember]
  exact if_neg hstops

/-- Otherwise the kind that is left among the data is the same if the patch is applied again. -/
theorem hidden_patched (hk : ∀ v ∈ k, v.Ordered) (hnamed : kind = none → types = none)
    (hversion : a = none → stops apiVersion = false) (h : patched types apiVersion kind a k = (types', hidden)) :
    (patched types' (versionMember types') (kindMember types' hidden) a k).2 = hidden := by
  obtain ⟨hnames, hhidden⟩ := Prod.mk.inj h
  cases a with
  | none =>
    have hstops : ¬ stops apiVersion = true := by simp [hversion rfl]
    rw [hidden_patched_none, ← hhidden]
    exact (if_neg hstops).symm
  | some v =>
    have hsame : stops (mergedMember (versionMember types') (some v)) = stops (mergedMember apiVersion (some v)) :=
      stops_mergedMember ..
    by_cases hstops : stops (mergedMember apiVersion (some v)) = true
    · -- the version is no text but by the patch, so the kind is what the patch makes of it
      refine (if_pos (hsame.trans hstops)).trans ?_
      rw [if_pos hstops] at hhidden
      rw [ofMembers?_of_stops hstops, Option.or_none] at hnames
      cases hidden with
      | some j =>
        show mergedMember (some j) k = some j
        rw [← hhidden, Json.mergedMember_mergedMember hk]
      | none =>
        rcases change_cases k with rfl | rfl | ⟨w, hw, rfl⟩
        · rw [← hnames, hnamed hhidden]
          rfl
        · rfl
        · rw [mergedMember_of_ne_null hw] at hhidden
          cases hhidden
    · rw [if_neg hstops] at hhidden
      rw [← hhidden]
      exact if_neg (hsame ▸ hstops)

end Patched

end TypeNames

/-! ## Objects that are patched again -/

namespace Object

/-- Whether an object can have been read from a document: of the names of its type, its data may have the kind only. -/
structure Readable (o : Object) : Prop where
  wellFormed : o.WellFormed
  unversioned : o.data.get? "apiVersion" = none

theorem readable_of_ofJson? {fields : Assoc String Json} (hf : fields.Ascending) {o : Object}
    (h : ofJson? (.obj fields) = some o) : o.Readable :=
  ⟨wellFormed_of_ofJson? hf h, (names_of_ofJson? hf h).2.1⟩

theorem readable_of_ordered {j : Json} (hj : j.Ordered) {o : Object} (h : ofJson? j = some o) : o.Readable := by
  cases hj with
  | obj hasc _ => exact readable_of_ofJson? hasc h
  | _ => cases h

theorem keptByWrites_readable : KeptByWrites Readable where
  of_eq h others data := ⟨h.wellFormed.of_eq others data, data ▸ h.unversioned⟩
  withStatus h status := ⟨h.wellFormed.withStatus status,
    (data_withStatus_of_ne _ status (by decide)).trans h.unversioned⟩
  patched h := readable_of_ofJson? (ascending_patched _ _) h

variable {o old new : Object} {changes : Assoc String Json}

theorem Readable.get?_apiVersion (h : o.Readable) :
    o.members.get? "apiVersion" = TypeNames.versionMember o.types := by
  rw [get?_members h.wellFormed.ascending, h.unversioned, if_neg (by decide), get?_typeMembers_apiVersion]
  exact (Option.map_map ..).symm

theorem Readable.get?_kind (h : o.Readable) :
    o.members.get? "kind" = TypeNames.kindMember o.types (o.data.get? "kind") := by
  rw [get?_members h.wellFormed.ascending, if_neg (by decide), get?_typeMembers_kind]
  exact congrArg _ (Option.map_map ..).symm

theorem types_none_of_kind (h : o.members.get? "kind" = none) : o.types = none := by
  unfold members at h
  rw [Assoc.get?_ofBindings_append, Assoc.get?_ofBindings_append, Option.or_eq_none_iff, Option.or_eq_none_iff,
    get?_typeMembers_kind, Option.map_eq_none_iff] at h
  exact h.2.2

/-- The names of an object that is stored after a patch, and the kind that is left among its data. -/
theorem names_inPlaceOf (hchanges : changes.Ascending)
    (hread : ofJson? (.obj (Json.mergeMembers old.members changes)) = some new) :
    TypeNames.patched old.types (old.members.get? "apiVersion") (old.members.get? "kind") (changes.get? "apiVersion")
      (changes.get? "kind") = (old.types.or new.types, new.data.get? "kind") := by
  obtain ⟨htypes, -, hkind⟩ := names_of_ofJson? (old.ascending_patched changes) hread
  rw [Json.get?_mergeMembers hchanges, Json.get?_mergeMembers hchanges] at htypes hkind
  rw [htypes, hkind]
  rfl

theorem Readable.stored (hread : ofJson? (.obj (Json.mergeMembers old.members changes)) = some new)
    (version : String) : (new.inPlaceOf old version).Readable :=
  keptByWrites_readable.of_eq (readable_of_ofJson? (old.ascending_patched changes) hread) rfl rfl

/-- Whether an object is written with an `apiVersion` that is no text, and after changes still is, with some kind. -/
structure Mislabeled (o : Object) (changes : Json) : Prop where
  version : ∃ j, o.toJson.get? "apiVersion" = some j ∧ ∀ text, j ≠ .str text
  left : changes.get? "apiVersion" = none
  kind : (o.toJson.mergePatch changes).get? "kind" ≠ none

/-- An object that can have been read from a document is not written with such a version. -/
theorem Readable.not_mislabeled (h : o.Readable) (changes : Json) : ¬ o.Mislabeled changes := by
  rintro ⟨⟨j, hj, hno⟩, -, -⟩
  rw [get?_toJson, h.get?_apiVersion] at hj
  obtain ⟨text, -, rfl⟩ := Option.map_eq_some_iff.1 hj
  exact hno text rfl

theorem mislabeled_iff (hordered : (Json.obj changes).Ordered) : o.Mislabeled (.obj changes) ↔
    TypeNames.stops (o.members.get? "apiVersion") = true ∧ changes.get? "apiVersion" = none ∧
      mergedMember (o.members.get? "kind") (changes.get? "kind") ≠ none := by
  have hkind : (o.toJson.mergePatch (.obj changes)).get? "kind" =
      mergedMember (o.members.get? "kind") (changes.get? "kind") := Json.get?_mergePatch hordered rfl o.toJson "kind"
  rw [TypeNames.stops_iff, ← hkind]
  exact ⟨fun ⟨version, left, kind⟩ => ⟨version, left, kind⟩, fun ⟨version, left, kind⟩ => ⟨version, left, kind⟩⟩

section Again

variable {new' : Object} {version : String} (hordered : (Json.obj changes).Ordered)
  (hread : ofJson? (.obj (Json.mergeMembers old.members changes)) = some new)
  (hread' : ofJson? (.obj (Json.mergeMembers (new.inPlaceOf old version).members changes)) = some new')
include hordered hread hread'

/-- What a second patch makes of the names and of the kind among the data. -/
theorem names_patched_again : (old.types.or new.types).or new'.types = old.types.or new.types ∧
    (¬ old.Mislabeled (.obj changes) → new'.data.get? "kind" = new.data.get? "kind") ∧
    (old.Mislabeled (.obj changes) → new.data.get? "kind" ≠ none ∧ new'.data.get? "kind" = none) := by
  obtain ⟨hasc, hc⟩ := hordered.changes
  have hstored := Readable.stored hread version
  have hnames := names_inPlaceOf hasc hread
  have hnames' := names_inPlaceOf hasc hread'
  rw [hstored.get?_apiVersion, hstored.get?_kind] at hnames'
  obtain ⟨-, hhidden⟩ := Prod.mk.inj hnames
  obtain ⟨htypes', hhidden'⟩ := Prod.mk.inj hnames'
  -- without a word on the version, the second patch leaves no kind
  have hlost : changes.get? "apiVersion" = none → new'.data.get? "kind" = none := by
    intro hnone
    rw [hnone] at hhidden'
    exact hhidden'.symm.trans (TypeNames.hidden_patched_none ..)
  rw [mislabeled_iff hordered]
  refine ⟨htypes'.symm.trans (TypeNames.names_patched hnames), fun hmis => ?_, ?_⟩
  · by_cases hversion : changes.get? "apiVersion" = none ∧ TypeNames.stops (old.members.get? "apiVersion") = true
    · -- then the first one left none either
      obtain ⟨hnone, hstops⟩ := hversion
      have hkind : mergedMember (old.members.get? "kind") (changes.get? "kind") = none :=
        Classical.not_not.1 fun hkind => hmis ⟨hstops, hnone, hkind⟩
      rw [hlost hnone, ← hhidden, hkind, ite_self]
    · have hversion : changes.get? "apiVersion" = none → TypeNames.stops (old.members.get? "apiVersion") = false := by
        simpa using hversion
      exact hhidden'.symm.trans (TypeNames.hidden_patched (hc "kind") types_none_of_kind hversion hnames)
  · rintro ⟨hstops, hnone, hkind⟩
    have hstops' : TypeNames.stops (mergedMember (old.members.get? "apiVersion") none) = true := hstops
    refine ⟨?_, hlost hnone⟩
    rw [hnone] at hhidden
    rwa [← hhidden, if_pos hstops']

/-- All other data are the same after a second patch. -/
theorem data_patched_again {k : String} (hk : k ≠ "kind") : new'.data.get? k = new.data.get? k := by
  obtain ⟨hasc, hc⟩ := hordered.changes
  have hstored := Readable.stored hread version
  have hnew := readable_of_ofJson? (old.ascending_patched changes) hread
  have hnew' := readable_of_ofJson? (ascending_patched _ changes) hread'
  by_cases hm : k = "metadata"
  · rw [hm, hnew.wellFormed.plain, hnew'.wellFormed.plain]
  by_cases ha : k = "apiVersion"
  · rw [ha, hnew.unversioned, hnew'.unversioned]
  -- any other member is what the patch makes of it, once and again
  rw [get?_data_of_ofJson? hread' hm ha hk, Json.get?_mergeMembers hasc,
    get?_members_of_ne hstored.wellFormed.ascending hm ha hk]
  show mergedMember (new.data.get? k) _ = _
  rw [get?_data_of_ofJson? hread hm ha hk, Json.get?_mergeMembers hasc, Json.mergedMember_mergedMember (hc k)]

end Again

/-- An object under another version. -/
def underVersion (o : Object) (version : String) : Object :=
  { o with metadata := { o.metadata with resourceVersion := some version } }

/-- What the second one of two equal patches gives, where the first one gave an object in the place of an old one: the
same object under another version; but if the old one was mislabeled, its kind is gone. -/
structure PatchedAgain (old : Object) (changes : Json) (version : String) (o o' : Object) : Prop where
  same : ¬ old.Mislabeled changes → o' = o.underVersion version
  unnamed : old.Mislabeled changes →
    o.data.get? "kind" ≠ none ∧ o' = ({ o with data := o.data.erase "kind" } : Object).underVersion version

/-- What was stored after a patch can be patched again. -/
theorem exists_patched_again (hordered : (Json.obj changes).Ordered)
    (hread : ofJson? (.obj (Json.mergeMembers old.members changes)) = some new) (version : String) :
    ∃ new' : Object, ofJson? (.obj (Json.mergeMembers (new.inPlaceOf old version).members changes)) = some new' ∧
      ∀ v, old.PatchedAgain (.obj changes) v (new.inPlaceOf old version)
        (new'.inPlaceOf (new.inPlaceOf old version) v) := by
  obtain ⟨hasc, hc⟩ := hordered.changes
  -- the metadata are read again, so the object is
  have hmeta := (ofJson?_iff.1 hread).2
  rw [Json.get?_mergeMembers hasc] at hmeta
  obtain ⟨metadata, hmeta', hsame⟩ := hmeta.again (hc _) old.metadata version
  obtain ⟨new', hread', rfl⟩ : ∃ new' : Object,
      ofJson? (.obj (Json.mergeMembers (new.inPlaceOf old version).members changes)) = some new' ∧
        new'.metadata = metadata := by
    refine ⟨⟨_, metadata, _⟩, ofJson?_iff.2 ⟨rfl, ?_⟩, rfl⟩
    rw [Json.get?_mergeMembers hasc, (Readable.stored hread version).wellFormed.get?_metadata]
    exact hmeta'
  obtain ⟨htypes, hkept, hlost⟩ := names_patched_again hordered hread hread'
  have hdata := fun k => data_patched_again (k := k) hordered hread hread'
  have hnew : new.data.Ascending := (readable_of_ofJson? (old.ascending_patched changes) hread).wellFormed.ascending
  have hnew' : new'.data.Ascending := (readable_of_ofJson? (ascending_patched _ changes) hread').wellFormed.ascending
  refine ⟨new', hread', fun v => ?_⟩
  have hobject : ∀ data, new'.data = data → new'.inPlaceOf (new.inPlaceOf old version) v =
      ({ new.inPlaceOf old version with data } : Object).underVersion v := by
    rintro _ rfl
    have hmetadata : (new'.inPlaceOf (new.inPlaceOf old version) v).metadata = (new.inPlaceOf old v).metadata := hsame v
    show Object.mk ((old.types.or new.types).or new'.types) _ new'.data = _
    rw [htypes]
    exact congrArg (Object.mk _ · _) hmetadata
  refine ⟨fun hmis => hobject _ (hnew'.ext_get? hnew fun k => ?_), fun hmis => ⟨(hlost hmis).1, hobject _ ?_⟩⟩
  · by_cases hk : k = "kind"
    · rw [hk, hkept hmis]
    · exact hdata k hk
  · refine hnew'.ext_get? (hnew.erase "kind") fun k => ?_
    by_cases hk : k = "kind"
    · rw [hk, (hlost hmis).2]
      exact (Assoc.get?_erase_self ..).symm
    · exact (hdata k hk).trans (Assoc.get?_erase_of_ne hk _).symm

end Object

/-! ## Clusters whose objects are patched again -/

theorem Patch.mergeContent_eq_ok {p : Patch} {content : Json} (h : p.mergeContent = .ok content) :
    content = p.content := by
  unfold mergeContent at h
  split at h <;> cases h <;> rfl

theorem Patch.ordered_withoutStatus {j : Json} (h : j.Ordered) : (withoutStatus j).Ordered := by
  unfold withoutStatus
  split
  · cases h with
    | obj hasc hvalues => exact .obj (hasc.erase "status") fun f hf => hvalues f (Assoc.mem_erase hf)
  · exact h

theorem Patch.ordered_onlyStatus {j : Json} (h : j.Ordered) : (onlyStatus j).Ordered := by
  unfold onlyStatus
  split
  · rename_i status hstatus
    exact .obj (List.pairwise_singleton ..) (List.forall_mem_singleton.2 (h.get? hstatus))
  · exact .obj List.Pairwise.nil (List.forall_mem_nil _)

theorem Patch.get?_withoutStatus {k : String} (hk : k ≠ "status") (j : Json) :
    (withoutStatus j).get? k = j.get? k := by
  unfold withoutStatus
  split
  · exact Assoc.get?_erase_of_ne hk _
  · rfl

theorem Patch.get?_onlyStatus {k : String} (hk : k ≠ "status") (j : Json) : (onlyStatus j).get? k = none := by
  unfold onlyStatus
  split
  · exact if_neg hk
  · rfl

/-- Whether a patch leaves an object mislabeled depends only on what it has for the names. -/
theorem Object.mislabeled_congr {o : Object} {c c' : Json} (hc : c.Ordered) (hc' : c'.Ordered)
    (hobject : c.isObject = true) (hobject' : c'.isObject = true) (version : c.get? "apiVersion" = c'.get? "apiVersion")
    (kind : c.get? "kind" = c'.get? "kind") : o.Mislabeled c ↔ o.Mislabeled c' := by
  obtain ⟨changes, rfl⟩ := Json.isObject_iff.1 hobject
  obtain ⟨changes', rfl⟩ := Json.isObject_iff.1 hobject'
  have version : Assoc.get? changes "apiVersion" = Assoc.get? changes' "apiVersion" := version
  have kind : Assoc.get? changes "kind" = Assoc.get? changes' "kind" := kind
  rw [mislabeled_iff hc, mislabeled_iff hc', version, kind]

theorem Object.PatchedAgain.congr {old o o' : Object} {c c' : Json} {version : String}
    (h : old.PatchedAgain c version o o') (hsame : old.Mislabeled c ↔ old.Mislabeled c') :
    old.PatchedAgain c' version o o' :=
  ⟨fun hmis => h.same (mt hsame.1 hmis), fun hmis => h.unnamed (hsame.2 hmis)⟩

namespace Store

variable {s : Store} {t : Target} {name : String} {o : Object}

/-- In a cluster of calls whose objects can have been read from documents, all objects can. -/
theorem readable_after {n : Nat} {xs : List (Fresh × Call)} (h : ∀ x ∈ xs, ∀ o ∈ x.2.body?, o.Readable) :
    ∀ b ∈ ((withLogCapacity n).after xs).objects, b.2.Readable := by
  have run : ∀ s : Store, (∀ b ∈ s.objects, b.2.Readable) → ∀ b ∈ (s.after xs).objects, b.2.Readable := by
    induction xs with
    | nil => exact fun _ hs => hs
    | cons x xs ih =>
      intro s hs
      obtain ⟨hx, hxs⟩ := List.forall_mem_cons.1 h
      exact ih hxs _ (kept_answer Object.keptByWrites_readable hs x.1 hx)
  exact run _ fun _ hb => nomatch hb

/-- A change that was a patch can be made again. -/
theorem modify_again {content : Json} (hcontent : content.Ordered)
    (h : (s.modify t name (·.mergePatch content)).1 = .ok o) {s' : Store}
    (hs' : s'.objects = (s.modify t name (·.mergePatch content)).2.objects) :
    content.isObject = true ∧ ∃ old o', s.objects.get? (t.place name) = some old ∧
      (s'.modify t name (·.mergePatch content)).1 = .ok o' ∧ old.PatchedAgain content s'.nextVersion o o' := by
  obtain ⟨hstored, old, new, hold, hnew, rfl⟩ := modify_eq_ok h
  obtain ⟨changes, rfl, hread⟩ := Object.mergePatch_ok_iff.1 hnew
  obtain ⟨new', hread', hagain⟩ := Object.exists_patched_again hcontent hread s.nextVersion
  rw [← hs'] at hstored
  have hnew' := Object.mergePatch_ok_iff.2 ⟨changes, rfl, hread'⟩
  refine ⟨rfl, old, _, hold, ?_, hagain s'.nextVersion⟩
  simp only [modify, hstored, hnew']
  rfl

theorem nextVersion_logged (s : Store) (entry : String) : (s.logged entry).nextVersion = s.nextVersion := by
  unfold nextVersion
  rw [logged_version]

/-- A patch that succeeds can be sent again. -/
theorem patch_again {p : Patch} (hp : p.content.Ordered) (h : (s.patch t name p).1 = .ok o) :
    ∃ old o', s.objects.get? (t.place name) = some old ∧ ((s.patch t name p).2.patch t name p).1 = .ok o' ∧
      old.PatchedAgain p.content (s.patch t name p).2.nextVersion o o' := by
  cases hcontent : p.mergeContent with
  | error e =>
    simp only [patch, hcontent] at h
    cases h
  | ok content =>
    cases Patch.mergeContent_eq_ok hcontent
    simp only [patch, hcontent] at h ⊢
    obtain ⟨hobject, old, o', hold, ho', hagain⟩ := modify_again (Patch.ordered_withoutStatus hp) h
      (logged_objects _ (logEntry "patch" t none))
    rw [nextVersion_logged] at hagain
    rw [logged_objects] at hold
    refine ⟨old, o', hold, ho', hagain.congr ?_⟩
    refine Object.mislabeled_congr (Patch.ordered_withoutStatus hp) hp hobject ?_ ?_ ?_
    · unfold Patch.withoutStatus at hobject
      split at hobject
      · rename_i hcontent
        rw [hcontent]
        rfl
      · exact hobject
    · exact Patch.get?_withoutStatus (by decide) _
    · exact Patch.get?_withoutStatus (by decide) _

/-- So can a patch of the status, which leaves the names alone. -/
theorem patchSubresource_again {sub : String} {p : Patch} (hp : p.content.Ordered)
    (h : (s.patchSubresource t sub name p).1 = .ok o) :
    ∃ old o', s.objects.get? (t.place name) = some old ∧
      ((s.patchSubresource t sub name p).2.patchSubresource t sub name p).1 = .ok o' ∧
      old.PatchedAgain (.obj []) (s.patchSubresource t sub name p).2.nextVersion o o' := by
  cases hsub : checkStatus sub with
  | error e =>
    simp only [patchSubresource, hsub] at h
    cases h
  | ok =>
    cases hcontent : p.mergeContent with
    | error e =>
      simp only [patchSubresource, hsub, hcontent] at h
      cases h
    | ok content =>
      cases Patch.mergeContent_eq_ok hcontent
      simp only [patchSubresource, hsub, hcontent] at h ⊢
      obtain ⟨hobject, old, o', hold, ho', hagain⟩ := modify_again (Patch.ordered_onlyStatus hp) h
        (logged_objects _ (logEntry "patch" t (some sub)))
      rw [nextVersion_logged] at hagain
      rw [logged_objects] at hold
      have hempty : Json.Ordered (.obj []) := .obj List.Pairwise.nil (List.forall_mem_nil _)
      exact ⟨old, o', hold, ho', hagain.congr (Object.mislabeled_congr (Patch.ordered_onlyStatus hp) hempty hobject rfl
        (Patch.get?_onlyStatus (by decide) _) (Patch.get?_onlyStatus (by decide) _))⟩

end Store

/-- For all documents, the second one with ascending members: a merge patch that is no object takes the place of what it
is applied to. One that is an object gives an object, in which a member that it has as null is absent, another member
that it has is what it makes of the old one, or of null if there was none, and all others are as they were. Applied
again it changes nothing. So in every cluster, whatever calls led to it, a merge patch of an object or of its status
that succeeds can be sent again, succeeds, and gives the same object under the next version and otherwise unchanged; only
if the object was written with an `apiVersion` that is no text, and after the patch still is, with some kind, this kind
is gone after the second one. No object of a cluster is written so if all that were sent were read from documents. -/
theorem merge_patch_idempotent :
    (∀ t p : Json, p.Ordered →
      (p.isObject = false → t.mergePatch p = p) ∧
      (p.isObject = true → (t.mergePatch p).isObject = true ∧ ∀ k,
        (p.get? k = some .null → (t.mergePatch p).get? k = none) ∧
        (∀ v, p.get? k = some v → v ≠ .null →
          (t.mergePatch p).get? k = some (((t.get? k).getD .null).mergePatch v)) ∧
        (p.get? k = none → (t.mergePatch p).get? k = t.get? k)) ∧
      (t.mergePatch p).mergePatch p = t.mergePatch p) ∧
    ∀ (n : Nat) (xs : List (Fresh × Call)),
      let s := (Store.withLogCapacity n).after xs
      (∀ (t : Target) (name : String) (p : Patch), p.content.Ordered →
        (∀ o, (s.patch t name p).1 = .ok o → ∃ old o', s.objects.get? (t.place name) = some old ∧
          ((s.patch t name p).2.patch t name p).1 = .ok o' ∧
          old.PatchedAgain p.content (s.patch t name p).2.nextVersion o o') ∧
        ∀ sub o, (s.patchSubresource t sub name p).1 = .ok o → ∃ old o', s.objects.get? (t.place name) = some old ∧
          ((s.patchSubresource t sub name p).2.patchSubresource t sub name p).1 = .ok o' ∧
          old.PatchedAgain (.obj []) (s.patchSubresource t sub name p).2.nextVersion o o') ∧
      ((∀ x ∈ xs, ∀ o ∈ x.2.body?, ∃ j : Json, j.Ordered ∧ Object.ofJson? j = some o) →
        ∀ b ∈ s.objects, ∀ changes, ¬ b.2.Mislabeled changes) := by
  refine ⟨fun t p hp => ⟨fun h => mergePatch_of_not_isObject h t, fun h => ?_, mergePatch_mergePatch hp t⟩, ?_⟩
  · have hget : ∀ k, (t.mergePatch p).get? k = mergedMember (t.get? k) (p.get? k) := Json.get?_mergePatch hp h t
    refine ⟨?_, fun k => ⟨fun hk => ?_, fun v hk hv => ?_, fun hk => ?_⟩⟩
    · obtain ⟨changes, rfl⟩ := Json.isObject_iff.1 h
      rw [mergePatch_obj]
      rfl
    · rw [hget, hk]
      rfl
    · rw [hget, hk, mergedMember_of_ne_null hv]
    · rw [hget, hk]
      rfl
  · intro n xs s
    refine ⟨fun t name p hp => ⟨?_, ?_⟩, ?_⟩
    · exact fun o h => Store.patch_again hp h
    · exact fun sub o h => Store.patchSubresource_again hp h
    intro hxs b hb
    have hreadable : ∀ x ∈ xs, ∀ o ∈ x.2.body?, o.Readable := by
      intro x hx o ho
      obtain ⟨j, hordered, hread⟩ := hxs x hx o ho
      exact Object.readable_of_ordered hordered hread
    exact (Store.readable_after hreadable b hb).not_mislabeled

namespace Store

/-- A patch of a stage that makes objects where there were none, removes members, and asks for no name. -/
def nestedPatch : Patch :=
  ⟨.merge, .object [("metadata", .object [("labels", .object [("tier", .str "gold")]), ("name", .null)]),
    ("spec", .object [("replicas", .int 2), ("shard", .null)])]⟩

/-- The patch is sent twice, and the second time only the version of the stage changes. -/
theorem nested_patch_sent_twice :
    let once := oneStage.patch ⟨stages, "demo"⟩ "test" nestedPatch
    ∃ o, once.1 = .ok o ∧ o.metadata.name = some "test" ∧ o.metadata.labels = some [("tier", "gold")] ∧
      o.metadata.resourceVersion = some "2" ∧ o.data.get? "spec" = some (.obj [("replicas", .int 2)]) ∧
      (once.2.patch ⟨stages, "demo"⟩ "test" nestedPatch).1 = .ok (o.underVersion "3") := by
  have hordered : nestedPatch.content.Ordered := by
    have hlabels : Json.Ordered (.object [("tier", .str "gold")]) :=
      Json.ordered_object (List.forall_mem_singleton.2 (.str _))
    refine Json.ordered_object (List.forall_mem_cons.2 ⟨?_, List.forall_mem_singleton.2 ?_⟩)
    · exact Json.ordered_object (List.forall_mem_cons.2 ⟨hlabels, List.forall_mem_singleton.2 .null⟩)
    · exact Json.ordered_object (List.forall_mem_cons.2 ⟨.int 2, List.forall_mem_singleton.2 .null⟩)
  obtain ⟨hpatches, -⟩ := merge_patch_idempotent.2 2 [(⟨"u1", ""⟩, .seed stages testStage)]
  obtain ⟨old, o', hold, ho', hagain⟩ := (hpatches ⟨stages, "demo"⟩ "test" nestedPatch hordered).1 _ rfl
  have hlabeled : ¬ old.Mislabeled nestedPatch.content := by
    cases hold
    rintro ⟨⟨j, hj, hno⟩, -, -⟩
    cases hj
    exact hno _ rfl
  rw [hagain.same hlabeled] at ho'
  exact ⟨_, rfl, rfl, rfl, rfl, rfl, ho'⟩

/-- A stage without names of a type, whose data hold a kind, and a number for the version. -/
def mislabeledStage : Object :=
  { metadata := { name := some "test", ns := some "demo" }
    data := [("apiVersion", .int 5), ("kind", .str "Foo")] }

/-- The document of the same stage. -/
def mislabeledDocument : Json :=
  .obj [("apiVersion", .int 5), ("kind", .str "Foo"),
    ("metadata", .obj [("name", .str "test"), ("namespace", .str "demo")])]

/-- The stage as it is stored under a version. -/
def storedStage (version : String) (data : Assoc String Json) : Object :=
  { metadata := { name := some "test", ns := some "demo", uid := some "u1", resourceVersion := some version }
    data }

/-- A cluster that the stage was sent to. -/
def sentStage (o : Object) : Store :=
  (withLogCapacity 2).after [(⟨"u1", ""⟩, .seed stages o)]

/-- A patch of the stage that asks for nothing. -/
def patchNothing (s : Store) : Except Error Object × Store :=
  s.patch ⟨stages, "demo"⟩ "test" ⟨.merge, .obj []⟩

/-- A patch that asks for nothing takes the version of such a stage, and when it is sent again also the kind. A stage
that is read from such a document has lost its version already, and its kind is lost to the first patch. -/
theorem kind_lost_to_empty_patch :
    ((patchNothing (sentStage mislabeledStage)).1 = .ok (storedStage "2" [("kind", .str "Foo")]) ∧
      (patchNothing (patchNothing (sentStage mislabeledStage)).2).1 = .ok (storedStage "3" []) ∧
      ∀ version, storedStage "3" [] ≠ (storedStage "2" [("kind", .str "Foo")]).underVersion version) ∧
    let given : Object := { mislabeledStage with data := [("kind", .str "Foo")] }
    Object.ofJson? mislabeledDocument = some given ∧
      ((sentStage given).get ⟨stages, "demo"⟩ "test").1 = .ok (storedStage "1" [("kind", .str "Foo")]) ∧
      (patchNothing (sentStage given)).1 = .ok (storedStage "2" []) := by
  refine ⟨⟨rfl, rfl, ?_⟩, rfl, rfl, rfl⟩
  intro version h
  cases congrArg Object.data h

end Store

end Cluster

end AccessGate
