/-
Objects and their documents. Metadata that was read is written as a document that is read as that metadata
again (`Metadata.ofJson?_toJson`). An object that was read from a document keeps all members under their names,
except that the names of its type may have a place of their own.
-/
import AccessGate.Cluster.Object
import AccessGate.Proofs.Kind.Shape

namespace AccessGate.Cluster

/-! ## Metadata -/

namespace Metadata

open Shape

theorem settled_managedFieldsShape : Settled managedFieldsShape.read? := by
  refine settled_object ⟨by decide, ?_, by simp [opt]⟩
  simp [opt, settled_text, settled_anything, settled_time]

theorem settled_ownerReferenceShape : Settled ownerReferenceShape.read? := by
  refine settled_object ⟨by decide, ?_, by simp [opt, req, zero, read?]⟩
  simp [opt, req, settled_text, settled_flag]

theorem distinct_memberShapes : (memberShapes.map Prod.fst).Nodup := by
  decide

theorem optional_memberShapes : ∀ f ∈ memberShapes, f.2.1 = .optional := by
  simp [memberShapes, opt]

theorem settled_memberShapes : SettledFields memberShapes := by
  refine ⟨distinct_memberShapes, ?_, fun f hf => .inl (optional_memberShapes f hf)⟩
  simp [memberShapes, opt, settled_text, settled_time, settled_integer, settled_dict settled_text,
    settled_list settled_text, settled_list settled_managedFieldsShape, settled_list settled_ownerReferenceShape]

/-- Whether metadata can have been read: the members without a field of their own are a document of the shape, with
none that has one. -/
structure WellFormed (m : Metadata) : Prop where
  shaped : shape.read? (.obj m.others) = some (.obj m.others)
  own : ∀ k ∈ ownMembers, m.others.get? k = none

theorem WellFormed.ascending {m : Metadata} (h : m.WellFormed) : m.others.Ascending := by
  obtain ⟨_, _, ⟨⟩, ⟨⟩, hasc, -⟩ := (read?_object distinct_memberShapes).1 h.shaped
  exact hasc

theorem wellFormed_empty : WellFormed {} :=
  ⟨by rfl, fun _ _ => rfl⟩

theorem fieldReads_none {f : String × Presence × Shape} (h : f.2.1 = .optional) : FieldReads f none none := by
  obtain ⟨k, p, s⟩ := f
  cases h
  rfl

/-- Metadata that is read is well-formed. -/
theorem wellFormed_of_ofJson? {j : Json} {m : Metadata} (h : ofJson? j = some m) : m.WellFormed := by
  obtain ⟨j', hj', rfl⟩ := Option.map_eq_some_iff.1 h
  obtain ⟨given, fields, rfl, rfl, hasc, hreads, hnone⟩ := (read?_object distinct_memberShapes).1 hj'
  -- a member is among the others if it has no field of its own
  have hothers : ∀ k, Assoc.get? (fields.filter fun f => !ownMembers.contains f.1) k =
      if k ∈ ownMembers then none else fields.get? k := by
    intro k
    refine Option.ext fun v => ?_
    rw [hasc.get?_filter]
    split <;> simp_all
  refine ⟨(read?_object distinct_memberShapes).2 ⟨_, _, rfl, rfl, hasc.filter _, fun f hf => ?_, fun k hk => ?_⟩,
    fun k hk => ?_⟩
  · show FieldReads f (Assoc.get? (fields.filter _) f.1) (Assoc.get? (fields.filter _) f.1)
    rw [hothers]
    split
    · exact fieldReads_none (optional_memberShapes f hf)
    · exact (hreads f hf).again (settled_memberShapes.settled f hf) (settled_memberShapes.zero f hf)
  · exact (hothers k).trans (by rw [hnone k hk]; exact ite_self _)
  · exact (hothers k).trans (if_pos hk)

/-- The member for a field of its own. -/
def ownMember? (m : Metadata) (k : String) : Option Json :=
  if k = "labels" then m.labels.map fun ls => .obj (ls.mapValues .str)
  else if k = "resourceVersion" then m.resourceVersion.map .str
  else if k = "uid" then m.uid.map .str
  else if k = "generateName" then m.generateName.map .str
  else if k = "namespace" then m.ns.map .str
  else if k = "name" then m.name.map .str
  else none

end Metadata

theorem get?_ofBindings_member? (k k' : String) (v : Option Json) :
    (Assoc.ofBindings (Json.member? k v)).get? k' = if k' = k then v else none := by
  cases v with
  | none => exact (ite_self _).symm
  | some j => rfl

namespace Metadata

open Shape

/-- What stands in the document of metadata: the fields of their own, and the other members. -/
theorem get?_toJson {m : Metadata} (h : m.WellFormed) (k : String) :
    m.toJson.get? k = (m.ownMember? k).or (m.others.get? k) := by
  show (Assoc.ofBindings _).get? k = _
  unfold ownMember?
  simp only [Assoc.get?_ofBindings_append, get?_ofBindings_member?, h.ascending.ofBindings_eq]
  -- the first name that fits excludes the others
  repeat' split
  all_goals simp_all

/-- The labels that are written are read as those labels. -/
theorem labelsOf_mapValues (ls : Assoc String String) : labelsOf (.obj (ls.mapValues .str)) = ls := by
  show List.map _ (List.map _ ls) = ls
  rw [List.map_map]
  exact List.map_id _

theorem mapM_text_iff {fields fields' : Assoc String Json} :
    fields.mapM (fun f => (text.read? f.2).map (f.1, ·)) = some fields' ↔
      fields' = fields ∧ ∃ ls : Assoc String String, fields = ls.mapValues .str := by
  constructor
  · intro h
    induction fields generalizing fields' with
    | nil =>
      cases h
      exact ⟨rfl, [], rfl⟩
    | cons f fields ih =>
      simp only [List.mapM_cons, Option.bind_eq_bind, Option.bind_eq_some_iff] at h
      obtain ⟨b, hb, rest, hrest, ⟨⟩⟩ := h
      obtain ⟨v, hv, rfl⟩ := Option.map_eq_some_iff.1 hb
      obtain ⟨rfl, ls, hls⟩ := ih hrest
      obtain ⟨k, j⟩ := f
      cases j with
      | str s =>
        cases hv
        exact ⟨rfl, (k, s) :: ls, congrArg _ hls⟩
      | _ => cases hv
  · rintro ⟨rfl, ls, rfl⟩
    induction ls with
    | nil => rfl
    | cons b ls ih =>
      show List.mapM _ ((b.1, Json.str b.2) :: Assoc.mapValues Json.str ls) = _
      rw [List.mapM_cons, ih]
      rfl

/-- Labels are read as they are, and are texts. -/
theorem read?_labels_iff {j j' : Json} :
    (dict text).read? j = some j' ↔ j' = j ∧ ∃ ls : Assoc String String, j = .obj (ls.mapValues .str) := by
  constructor
  · intro h
    cases j with
    | obj fields =>
      obtain ⟨fields', hm, rfl⟩ := Option.map_eq_some_iff.1 h
      obtain ⟨rfl, ls, rfl⟩ := mapM_text_iff.1 hm
      exact ⟨rfl, ls, rfl⟩
    | _ => cases h
  · rintro ⟨rfl, ls, rfl⟩
    exact Option.map_eq_some_iff.2 ⟨_, mapM_text_iff.2 ⟨rfl, ls, rfl⟩, rfl⟩

theorem ownMember?_eq_none {m : Metadata} {k : String} (h : k ∉ ownMembers) : m.ownMember? k = none := by
  unfold ownMember?
  simp_all [ownMembers]

theorem get?_toJson_own {m : Metadata} (h : m.WellFormed) {k : String} (hk : k ∈ ownMembers) :
    m.toJson.get? k = m.ownMember? k := by
  rw [get?_toJson h, h.own k hk, Option.or_none]

/-- A field of its own is written as it is read. -/
theorem fieldReads_ownMember? (m : Metadata) :
    ∀ f ∈ memberShapes, FieldReads f (m.ownMember? f.1) (m.ownMember? f.1) := by
  have absent : ∀ {k s}, m.ownMember? k = none → FieldReads (opt k s) (m.ownMember? k) (m.ownMember? k) := by
    intro k s h
    rw [h]
    exact fieldReads_none rfl
  have texts : ∀ {k} (x : Option String), FieldReads (opt k .text) (x.map .str) (x.map .str) := by
    intro k x
    cases x <;> rfl
  have labels : ∀ ls : Option (Assoc String String), FieldReads (opt "labels" (.dict .text))
      (ls.map fun ls => .obj (ls.mapValues .str)) (ls.map fun ls => .obj (ls.mapValues .str)) := by
    intro ls
    cases ls with
    | none => rfl
    | some ls => exact Option.map_eq_some_iff.2 ⟨_, read?_labels_iff.2 ⟨rfl, ls, rfl⟩, rfl⟩
  unfold memberShapes
  simp only [List.forall_mem_cons]
  exact ⟨absent rfl, absent rfl, absent rfl, absent rfl, absent rfl, texts m.generateName, absent rfl, labels m.labels,
    absent rfl, texts m.name, texts m.ns, absent rfl, texts m.resourceVersion, absent rfl, texts m.uid,
    fun _ h => nomatch h⟩

theorem read?_toJson {m : Metadata} (h : m.WellFormed) : shape.read? m.toJson = some m.toJson := by
  obtain ⟨_, _, ⟨⟩, ⟨⟩, -, hreads, hnone⟩ := (read?_object distinct_memberShapes).1 h.shaped
  have hget : ∀ k, Assoc.get? (Assoc.ofBindings _) k = (m.ownMember? k).or (m.others.get? k) := get?_toJson h
  refine (read?_object distinct_memberShapes).2
    ⟨_, _, rfl, rfl, Assoc.ascending_ofBindings _, fun f hf => ?_, fun k hk => ?_⟩
  · rw [hget]
    by_cases hown : f.1 ∈ ownMembers
    · rw [h.own f.1 hown, Option.or_none]
      exact fieldReads_ownMember? m f hf
    · rw [ownMember?_eq_none hown, Option.none_or]
      exact hreads f hf
  · have hown : k ∉ ownMembers := fun hown => hk ((by decide : ownMembers ⊆ memberShapes.map Prod.fst) hown)
    rw [hget, ownMember?_eq_none hown, hnone k hk]
    rfl

/-- What is written for metadata is read as that metadata. -/
theorem ofJson?_toJson {m : Metadata} (h : m.WellFormed) : ofJson? m.toJson = some m := by
  have hget := get?_toJson h
  have htext : ∀ k ∈ ownMembers, ∀ x : Option String, m.ownMember? k = x.map .str →
      (m.toJson.get? k).bind Json.asString? = x := by
    intro k hk x hx
    rw [get?_toJson_own h hk, hx]
    cases x <;> rfl
  have hlabels : (m.toJson.get? "labels").map labelsOf = m.labels := by
    rw [get?_toJson_own h (by decide),
      show m.ownMember? "labels" = m.labels.map fun ls => .obj (ls.mapValues .str) from rfl,
      Option.map_map, show labelsOf ∘ (fun ls : Assoc String String => .obj (ls.mapValues .str)) = id from
      funext labelsOf_mapValues, Option.map_id_apply]
  have hothers : (m.toJson.asFields?.getD []).filter (fun f => !ownMembers.contains f.1) = m.others := by
    refine ((Assoc.ascending_ofBindings _).filter _).ext_get? h.ascending fun k => Option.ext fun v => ?_
    rw [(Assoc.ascending_ofBindings _).get?_filter]
    show m.toJson.get? k = some v ∧ _ ↔ _
    rw [hget]
    by_cases hk : k ∈ ownMembers
    · simp [h.own k hk, hk]
    · simp [ownMember?_eq_none hk, hk]
  refine (congrArg (Option.map ofShaped) (read?_toJson h)).trans (congrArg some ?_)
  unfold ofShaped
  simp only [hlabels, hothers, htext "name" (by decide) m.name rfl, htext "namespace" (by decide) m.ns rfl,
    htext "generateName" (by decide) m.generateName rfl, htext "uid" (by decide) m.uid rfl,
    htext "resourceVersion" (by decide) m.resourceVersion rfl]

theorem text_of_fieldReads {k : String} {v : Option Json} (h : FieldReads (opt k .text) v v) :
    (v.bind Json.asString?).map .str = v := by
  cases v with
  | none => rfl
  | some j =>
    cases j with
    | str s => rfl
    | _ => cases h

theorem labels_of_fieldReads {k : String} {v : Option Json} (h : FieldReads (opt k (.dict .text)) v v) :
    (v.map labelsOf).map (fun ls => .obj (ls.mapValues .str)) = v := by
  cases v with
  | none => rfl
  | some j =>
    cases j with
    | obj fields =>
      obtain ⟨_, hread, -⟩ := Option.map_eq_some_iff.1 h
      obtain ⟨ls, hls⟩ := (read?_labels_iff.1 hread).2
      rw [hls, Option.map_some, Option.map_some, labelsOf_mapValues]
    | _ => cases h

/-- What was read is written as it is. -/
theorem toJson_ofShaped {j : Json} (h : shape.read? j = some j) : (ofShaped j).toJson = j := by
  have hwf : (ofShaped j).WellFormed := wellFormed_of_ofJson? (Option.map_eq_some_iff.2 ⟨j, h, rfl⟩)
  obtain ⟨fields, _, rfl, ⟨⟩, hasc, hreads, -⟩ := (read?_object distinct_memberShapes).1 h
  have hown : ∀ k ∈ ownMembers, (ofShaped (.obj fields)).ownMember? k = fields.get? k := by
    have texts : ∀ k, opt k .text ∈ memberShapes → ((fields.get? k).bind Json.asString?).map .str = fields.get? k :=
      fun k hk => text_of_fieldReads (hreads _ hk)
    have labels : ((fields.get? "labels").map labelsOf).map (fun ls => .obj (ls.mapValues .str)) =
        fields.get? "labels" := labels_of_fieldReads (hreads (opt "labels" (.dict .text)) (by simp [memberShapes]))
    unfold ownMembers
    simp only [List.forall_mem_cons]
    exact ⟨texts "name" (by simp [memberShapes]), texts "namespace" (by simp [memberShapes]),
      texts "generateName" (by simp [memberShapes]), texts "uid" (by simp [memberShapes]),
      texts "resourceVersion" (by simp [memberShapes]), labels, List.forall_mem_nil _⟩
  refine congrArg Json.obj ((Assoc.ascending_ofBindings _).ext_get? hasc fun k => ?_)
  show (ofShaped (.obj fields)).toJson.get? k = _
  rw [get?_toJson hwf]
  by_cases hk : k ∈ ownMembers
  · rw [hown k hk, hwf.own k hk, Option.or_none]
  · rw [ownMember?_eq_none hk, Option.none_or]
    refine Option.ext fun v => ?_
    show Assoc.get? (fields.filter fun f => !ownMembers.contains f.1) k = some v ↔ _
    rw [hasc.get?_filter]
    simp [hk]

/-- Metadata are read exactly if each member is read as the one that they are written with. -/
theorem ofJson?_obj_iff {given : Assoc String Json} {m : Metadata} : ofJson? (.obj given) = some m ↔
    m.WellFormed ∧ ∀ f ∈ memberShapes, FieldReads f (given.get? f.1) (m.toJson.get? f.1) := by
  constructor
  · intro h
    have hwf := wellFormed_of_ofJson? h
    obtain ⟨j, hj, rfl⟩ := Option.map_eq_some_iff.1 h
    rw [toJson_ofShaped ((settled_object settled_memberShapes).again hj)]
    obtain ⟨_, _, ⟨⟩, rfl, -, hreads, -⟩ := (read?_object distinct_memberShapes).1 hj
    exact ⟨hwf, hreads⟩
  · rintro ⟨hwf, hreads⟩
    obtain ⟨_, written, -, hwritten, hasc, -, hnone⟩ := (read?_object distinct_memberShapes).1 (read?_toJson hwf)
    have hread : shape.read? (.obj given) = some m.toJson := by
      rw [hwritten] at hreads ⊢
      exact (read?_object distinct_memberShapes).2 ⟨given, written, rfl, rfl, hasc, hreads, hnone⟩
    have hm := ofJson?_toJson hwf
    unfold ofJson? at hm ⊢
    rwa [read?_toJson hwf, ← hread] at hm

end Metadata

/-! ## The names of a type -/

namespace TypeNames

/-- What is left of the members is some of them, in their order. -/
theorem take_sublist (apiVersion kind : Option String) (l : List (String × Json)) :
    (take apiVersion kind l).2.Sublist l := by
  fun_induction take apiVersion kind l with
  | case1 | case2 => exact .slnil
  | case3 _ _ _ ih | case5 _ _ _ ih => exact ih.cons _
  | case4 | case6 => exact List.sublist_cons_self ..
  | case7 _ _ _ _ _ _ _ htake _ _ ih => 
    rw [htake] at ih
    exact ih.cons_cons _

/-- All members but the names are left as they are. -/
theorem get?_take (apiVersion kind : Option String) (l : Assoc String Json) {key : String} (ha : key ≠ "apiVersion")
    (hk : key ≠ "kind") : Assoc.get? (take apiVersion kind l).2 key = l.get? key := by
  fun_induction take apiVersion kind l with
  | case1 | case2 => rfl
  | case3 _ _ _ ih => rw [ih, Assoc.get?_cons, if_neg ha]
  | case5 _ _ _ ih => rw [ih, Assoc.get?_cons, if_neg hk]
  | case4 => rw [Assoc.get?_cons, if_neg ha]
  | case6 => rw [Assoc.get?_cons, if_neg hk]
  | case7 _ _ _ _ _ _ _ htake _ _ ih =>
    rw [htake] at ih
    rw [Assoc.get?_cons, Assoc.get?_cons, ih]

/-- The names that two members give, if both are texts. -/
def ofMembers? (apiVersion kind : Option Json) : Option TypeNames :=
  (apiVersion.bind Json.asString?).bind fun a => (kind.bind Json.asString?).map (⟨a, ·⟩)

/-- Whether nothing behind a member is looked at: it is there, and is no text. -/
def stops (j : Option Json) : Bool :=
  j.any (·.asString?.isNone)

theorem take_cons_of_ne {apiVersion kind : Option String} {b : String × Json} (ha : b.1 ≠ "apiVersion")
    (hk : b.1 ≠ "kind") (l : Assoc String Json) :
    take apiVersion kind (b :: l) = ((take apiVersion kind l).1, b :: (take apiVersion kind l).2) := by
  rw [take]
  · exact ha
  · exact hk

/-- Where there are no names, the names are those that were taken before. -/
theorem take_of_absent {apiVersion kind : Option String} {l : Assoc String Json} (ha : l.get? "apiVersion" = none)
    (hk : l.get? "kind" = none) : take apiVersion kind l = (apiVersion.bind fun a => kind.map (⟨a, ·⟩), l) := by
  induction l with
  | nil => cases apiVersion <;> cases kind <;> rfl
  | cons b l ih =>
    rw [Assoc.get?_cons] at ha hk
    split at ha
    · cases ha
    · rename_i hna
      split at hk
      · cases hk
      · rename_i hnk
        rw [take_cons_of_ne (Ne.symm hna) (Ne.symm hnk), ih ha hk]

/-- The kind is taken off the members in any case, and is a name if it is text. -/
theorem take_of_no_version {apiVersion : Option String} {l : Assoc String Json} (hl : l.Ascending)
    (ha : l.get? "apiVersion" = none) : take apiVersion none l =
      (apiVersion.bind fun a => ((l.get? "kind").bind Json.asString?).map (⟨a, ·⟩), l.erase "kind") := by
  induction l with
  | nil => cases apiVersion <;> rfl
  | cons b l ih =>
    obtain ⟨key, j⟩ := b
    rw [Assoc.get?_cons] at ha
    split at ha
    · cases ha
    rename_i hna
    by_cases hk : key = "kind"
    · subst hk
      have hrest : Assoc.get? l "kind" = none := hl.get?_tail
      rw [Assoc.get?_cons, if_pos rfl, Assoc.erase_cons_self, Assoc.erase_eq_self hrest]
      cases j with
      | str s => exact take_of_absent ha hrest
      | _ => cases apiVersion <;> rfl
    · rw [take_cons_of_ne (Ne.symm hna) hk, ih (List.pairwise_cons.1 hl).2 ha, Assoc.get?_cons, if_neg (Ne.symm hk),
        Assoc.erase_cons_of_ne hk]

/-- Of ascending members, both names are taken off, and are names if both are text. But if the version is no text,
the kind stays among the members. -/
theorem take_eq {l : Assoc String Json} (hl : l.Ascending) : take none none l =
    (ofMembers? (l.get? "apiVersion") (l.get? "kind"),
      if stops (l.get? "apiVersion") then l.erase "apiVersion" else (l.erase "apiVersion").erase "kind") := by
  induction l with
  | nil => rfl
  | cons b l ih =>
    cases hget : Assoc.get? (b :: l) "apiVersion" with
    | none =>
      rw [take_of_no_version hl hget, Assoc.erase_eq_self hget]
      rfl
    | some v =>
      obtain ⟨key, j⟩ := b
      obtain ⟨hlt, hrest⟩ := List.pairwise_cons.1 hl
      rw [Assoc.get?_cons] at hget
      split at hget
      · rename_i hkey
        obtain rfl : "apiVersion" = key := hkey
        cases hget
        have hnone : Assoc.get? l "apiVersion" = none := hl.get?_tail
        rw [Assoc.get?_cons, if_neg (show "kind" ≠ "apiVersion" by decide), Assoc.erase_cons_self,
          Assoc.erase_eq_self hnone]
        cases j with
        | str s => exact take_of_no_version hrest hnone
        | _ => rfl
      · rename_i hkey
        -- a version behind the kind would not ascend
        have hk : key ≠ "kind" := by
          rintro rfl
          exact absurd (hlt _ (Assoc.mem_of_get? hget)) (show compare "kind" "apiVersion" ≠ .lt by decide)
        rw [take_cons_of_ne (Ne.symm hkey) hk, ih hrest, hget, Assoc.get?_cons, if_neg (Ne.symm hk),
          Assoc.erase_cons_of_ne (Ne.symm hkey), Assoc.erase_cons_of_ne hk]
        split <;> rfl

end TypeNames

/-! ## Objects -/

/-- Whether metadata are those of a document with this member for them. -/
def Metadata.ReadFrom (given : Option Json) (m : Metadata) : Prop :=
  given = none ∧ m = {} ∨ ∃ j, given = some j ∧ ofJson? j = some m

namespace Object

/-- Whether an object can have been read from a document. -/
structure WellFormed (o : Object) : Prop where
  metadata : o.metadata.WellFormed
  ascending : o.data.Ascending
  plain : o.data.get? "metadata" = none

theorem ofJson?_iff {fields : Assoc String Json} {o : Object} : ofJson? (.obj fields) = some o ↔
    TypeNames.take none none (fields.erase "metadata") = (o.types, o.data) ∧
      o.metadata.ReadFrom (fields.get? "metadata") := by
  unfold ofJson? Metadata.ReadFrom
  simp only [Json.asFields?, Option.bind_eq_bind, Option.bind_some]
  cases fields.get? "metadata" with
  | none =>
    constructor
    · rintro ⟨⟩
      exact ⟨rfl, .inl ⟨rfl, rfl⟩⟩
    · rintro ⟨htake, ⟨-, hm⟩ | ⟨_, ⟨⟩, -⟩⟩
      obtain ⟨types, metadata, data⟩ := o
      simp only at htake hm
      rw [htake, hm]
  | some m =>
    constructor
    · intro h
      obtain ⟨metadata, hread, ⟨⟩⟩ := Option.bind_eq_some_iff.1 h
      exact ⟨rfl, .inr ⟨m, rfl, hread⟩⟩
    · rintro ⟨htake, ⟨⟨⟩, -⟩ | ⟨_, ⟨⟩, hread⟩⟩
      refine Option.bind_eq_some_iff.2 ⟨_, hread, ?_⟩
      rw [htake]

/-- The members without a place of their own stay as the document has them. -/
theorem get?_data_of_ofJson? {fields : Assoc String Json} {o : Object} (h : ofJson? (.obj fields) = some o)
    {k : String} (hm : k ≠ "metadata") (ha : k ≠ "apiVersion") (hk : k ≠ "kind") : o.data.get? k = fields.get? k := by
  have hget := TypeNames.get?_take none none (fields.erase "metadata") ha hk
  rw [(ofJson?_iff.1 h).1, Assoc.get?_erase_of_ne hm] at hget
  exact hget

/-- An object that is read from a document is well-formed. -/
theorem wellFormed_of_ofJson? {fields : Assoc String Json} (hf : fields.Ascending) {o : Object}
    (h : ofJson? (.obj fields) = some o) : o.WellFormed := by
  obtain ⟨htake, hm⟩ := ofJson?_iff.1 h
  refine ⟨?_, ?_, ?_⟩
  · rcases hm with ⟨-, hm⟩ | ⟨m, -, hm⟩
    · rw [hm]
      exact Metadata.wellFormed_empty
    · exact Metadata.wellFormed_of_ofJson? hm
  · have hsub := TypeNames.take_sublist none none (fields.erase "metadata")
    rw [htake] at hsub
    exact List.Pairwise.sublist hsub (hf.erase "metadata")
  · have hget := TypeNames.get?_take none none (fields.erase "metadata") (show "metadata" ≠ "apiVersion" by decide)
      (by decide)
    rw [htake, Assoc.get?_erase_self] at hget
    exact hget

/-- The names of the type depend on two members only, and of these at most the kind stays. -/
theorem names_of_ofJson? {fields : Assoc String Json} (hf : fields.Ascending) {o : Object}
    (h : ofJson? (.obj fields) = some o) :
    o.types = TypeNames.ofMembers? (fields.get? "apiVersion") (fields.get? "kind") ∧
      o.data.get? "apiVersion" = none ∧
      o.data.get? "kind" = if TypeNames.stops (fields.get? "apiVersion") then fields.get? "kind" else none := by
  have htake := (ofJson?_iff.1 h).1
  rw [TypeNames.take_eq (hf.erase "metadata"), Assoc.get?_erase_of_ne (by decide), Assoc.get?_erase_of_ne (by decide)]
    at htake
  obtain ⟨htypes, hdata⟩ := Prod.mk.inj htake
  rw [← htypes, ← hdata]
  refine ⟨rfl, ?_, ?_⟩
  · split
    · exact Assoc.get?_erase_self ..
    · rw [Assoc.get?_erase_of_ne (by decide), Assoc.get?_erase_self]
  · split
    · rw [Assoc.get?_erase_of_ne (by decide), Assoc.get?_erase_of_ne (by decide)]
    · exact Assoc.get?_erase_self ..

/-- The members of the document of an object. -/
def members (o : Object) : Assoc String Json :=
  Assoc.ofBindings (typeMembers o.types ++ [("metadata", o.metadata.toJson)] ++ o.data)

theorem ascending_members (o : Object) : o.members.Ascending :=
  Assoc.ascending_ofBindings _

theorem get?_toJson (o : Object) (k : String) : o.toJson.get? k = o.members.get? k := rfl

/-- What stands in the document of an object: its data, and under what they do not name, its metadata and the names
of its type. -/
theorem get?_members {o : Object} (h : o.data.Ascending) (k : String) :
    o.members.get? k = (o.data.get? k).or
      (if k = "metadata" then some o.metadata.toJson else (Assoc.ofBindings (typeMembers o.types)).get? k) := by
  unfold members
  rw [Assoc.get?_ofBindings_append, Assoc.get?_ofBindings_append, h.ofBindings_eq]
  congr 1
  show (if k = "metadata" then some o.metadata.toJson else none).or _ = _
  split
  · rfl
  · rfl

theorem get?_typeMembers_of_ne {types : Option TypeNames} {k : String} (ha : k ≠ "apiVersion") (hk : k ≠ "kind") :
    (Assoc.ofBindings (typeMembers types)).get? k = none := by
  cases types with
  | none => rfl
  | some n =>
    rw [Assoc.get?_ofBindings]
    show (if k = "kind" then _ else if k = "apiVersion" then _ else none) = none
    rw [if_neg hk, if_neg ha]

theorem get?_typeMembers_apiVersion (types : Option TypeNames) :
    (Assoc.ofBindings (typeMembers types)).get? "apiVersion" = types.map fun n => .str n.apiVersion := by
  rw [Assoc.get?_ofBindings]
  cases types <;> rfl

theorem get?_typeMembers_kind (types : Option TypeNames) :
    (Assoc.ofBindings (typeMembers types)).get? "kind" = types.map fun n => .str n.kind := by
  rw [Assoc.get?_ofBindings]
  cases types <;> rfl

/-- Under any other name, the document has what the data have. -/
theorem get?_members_of_ne {o : Object} (h : o.data.Ascending) {k : String} (hm : k ≠ "metadata")
    (ha : k ≠ "apiVersion") (hk : k ≠ "kind") : o.members.get? k = o.data.get? k := by
  rw [get?_members h, if_neg hm, get?_typeMembers_of_ne ha hk, Option.or_none]

theorem WellFormed.get?_metadata {o : Object} (h : o.WellFormed) :
    o.members.get? "metadata" = some o.metadata.toJson := by
  rw [get?_members h.ascending, h.plain, if_pos rfl]
  rfl

end Object

end AccessGate.Cluster
