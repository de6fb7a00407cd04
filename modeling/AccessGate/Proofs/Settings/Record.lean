/-
Records and layers. A record is described by its fields: under which key each stands in a document, how it
is read and written, and what it is when a document leaves it out. Main statement: a record with a layer
over it has, field by field, what the layer gives, and what it had before where the layer gives nothing; but
a list gives all fields, and those that it leaves out are what they are in an empty document
(`Record.Lawful.reads_overlay`).
-/
import AccessGate.Proofs.Json.Overlay

namespace AccessGate

/-! ## What a document gives for a record -/

namespace Json

def isList : Json → Bool
  | .arr _ => true
  | _ => false

/-- What a document gives for a field of a record whose fields have these names: the member of that name, or the
item in its place in a list. -/
def entry? (names : List String) (k : String) : Json → Option Json
  | .obj fields => Assoc.get? fields k
  | .arr xs => Assoc.get? (names.zip xs) k
  | _ => none

/-- Whether a document has fields of these names only: an object without other members, or a list that is not
longer. -/
def NamedBy (names : List String) : Json → Prop
  | .obj fields => ∀ k ∈ Assoc.keys fields, k ∈ names
  | .arr xs => xs.length ≤ names.length
  | _ => False

variable {names : List String} {j : Json}

theorem entry?_of_closedRecord? {given : Assoc String Json} (h : j.closedRecord? names = some given) :
    j.NamedBy names ∧ ∀ k, given.get? k = j.entry? names k := by
  cases j with
  | obj fields =>
    simp only [closedRecord?] at h
    split at h
    · rename_i hall
      cases h
      refine ⟨?_, fun k => rfl⟩
      intro k hk
      obtain ⟨f, hf, rfl⟩ := List.mem_map.1 hk
      simpa using List.all_eq_true.1 hall f hf
    · cases h
  | arr xs =>
    simp only [closedRecord?, record?] at h
    split at h
    · cases h
    · rename_i hlen
      cases h
      exact ⟨Nat.le_of_not_lt hlen, fun k => rfl⟩
  | _ => cases h

theorem NamedBy.closedRecord? (h : j.NamedBy names) : ∃ given, j.closedRecord? names = some given := by
  cases j with
  | obj fields =>
    refine ⟨fields, if_pos (List.all_eq_true.2 ?_)⟩
    intro f hf
    simpa using h f.1 (List.mem_map.2 ⟨f, hf, rfl⟩)
  | arr xs => exact ⟨_, if_neg (Nat.not_lt.2 h)⟩
  | _ => cases h

/-- What an ordered document gives for a field is ordered. -/
theorem Ordered.entry? (hj : j.Ordered) {k : String} {v : Json} (h : j.entry? names k = some v) : v.Ordered := by
  cases hj with
  | obj _ hfields => exact hfields _ (Assoc.mem_of_get? h)
  | arr hitems =>
    have hmem : (k, v) ∈ names.zip _ := Assoc.mem_of_get? h
    exact hitems v (List.of_mem_zip hmem).2
  | _ => cases h

theorem withDefault_eq_some {α : Type} {read : Json → Option α} {d : α} {fields : Assoc String Json} {k : String}
    {a : α} : withDefault read d fields k = some a ↔
      match fields.get? k with
      | some v => read v = some a
      | none => a = d := by
  unfold withDefault
  cases fields.get? k with
  | some v => exact Iff.rfl
  | none => exact ⟨fun h => (Option.some.inj h).symm, fun h => congrArg some h.symm⟩

end Json

namespace Settings

/-! ## Fields and records -/

/-- A field of what σ holds. -/
structure Field (σ : Type) where
  key : String
  Value : Type
  read : Json → Option Value
  toJson : Value → Json
  /-- What it is when a document leaves it out. -/
  absent : Value
  get : σ → Value

namespace Field

variable {σ : Type}

/-- Whether what a field is written as is read again as what it is. -/
def Keeps (f : Field σ) (a : σ) : Prop :=
  f.read (f.toJson (f.get a)) = some (f.get a)

/-- Whether a field takes what is given for it, if anything is, and is a certain value otherwise. -/
def Takes (f : Field σ) (otherwise : f.Value) (given : Option Json) (new : f.Value) : Prop :=
  match given with
  | some v => f.read v = some new
  | none => new = otherwise

theorem takes_iff {f : Field σ} {otherwise new : f.Value} {given : Option Json} : f.Takes otherwise given new ↔
    (∀ v, given = some v → f.read v = some new) ∧ (given = none → new = otherwise) := by
  unfold Takes
  cases given with
  | some v => simp
  | none => simp

/-- Whether a layer that gives this for a field, or nothing, makes it a certain value; `whole` if nothing of what
was before is left. -/
def Laid (f : Field σ) (whole : Bool) (old : σ) (given : Option Json) (new : f.Value) : Prop :=
  match given with
  | some v => f.read (if whole then v else (f.toJson (f.get old)).overlay v) = some new
  | none => new = if whole then f.absent else f.get old

/-- Whether a field is never written as an object, so that nothing can be laid over it in parts. -/
def Plain (f : Field σ) : Prop :=
  ∀ v, (f.toJson v).isObject = false

theorem Plain.laid_iff {f : Field σ} (h : f.Plain) {whole : Bool} {old : σ} {given : Option Json}
    (hgiven : ∀ v, given = some v → v.Ordered) {new : f.Value} :
    f.Laid whole old given new ↔ f.Takes (if whole then f.absent else f.get old) given new := by
  unfold Laid Takes
  cases given with
  | none => exact Iff.rfl
  | some v =>
    have hover : (f.toJson (f.get old)).overlay v = v := Json.overlay_of_not_isObject (h _) (hgiven v rfl)
    simp only [hover, ite_self]

end Field

/-- Everything that is known of a kind of records. -/
structure Record (σ : Type) where
  fields : List (Field σ)
  read? : Json → Option σ
  toJson : σ → Json
  /-- What an empty document gives. -/
  absent : σ

namespace Record

variable {σ : Type}

def names (r : Record σ) : List String :=
  r.fields.map Field.key

/-- Whether records are read and written field by field, and the fields may have any values. -/
structure Lawful (r : Record σ) : Prop where
  distinct : r.names.Nodup
  reads : ∀ {j a}, r.read? j = some a ↔ ∃ given, j.closedRecord? r.names = some given ∧
    ∀ f ∈ r.fields, Json.withDefault f.read f.absent given f.key = some (f.get a)
  writes : ∀ a, r.toJson a = .object (r.fields.map fun f => (f.key, f.toJson (f.get a)))
  absent : ∀ f ∈ r.fields, f.get r.absent = f.absent
  free : ∀ P : (f : Field σ) → f.Value → Prop, (∀ f ∈ r.fields, ∃ v, P f v) → ∃ a, ∀ f ∈ r.fields, P f (f.get a)

namespace Lawful

variable {r : Record σ} {old new : σ} {j : Json}

theorem mem_names {f : Field σ} (hf : f ∈ r.fields) : f.key ∈ r.names :=
  List.mem_map.2 ⟨f, hf, rfl⟩

/-- The document of a record: the fields under their keys, and no other keys. -/
theorem toJson_eq_obj (h : r.Lawful) (a : σ) : ∃ m : Assoc String Json, r.toJson a = .obj m ∧
    (∀ k ∈ m.keys, k ∈ r.names) ∧ ∀ f ∈ r.fields, m.get? f.key = some (f.toJson (f.get a)) := by
  refine ⟨_, h.writes a, ?_, ?_⟩
  · intro k hk
    obtain ⟨b, hb, rfl⟩ := List.mem_map.1 hk
    obtain ⟨f, hf, rfl⟩ := List.mem_map.1 (Assoc.mem_ofBindings hb)
    exact mem_names hf
  · intro f hf
    apply Assoc.get?_ofBindings_of_mem
    · rw [List.map_map]
      exact h.distinct
    · exact List.mem_map.2 ⟨f, hf, rfl⟩

/-- The fields of what is read, one by one. -/
theorem reads_iff (h : r.Lawful) : r.read? j = some new ↔ j.NamedBy r.names ∧
    ∀ f ∈ r.fields, f.Takes f.absent (j.entry? r.names f.key) (f.get new) := by
  rw [h.reads]
  simp only [Json.withDefault_eq_some]
  constructor
  · rintro ⟨given, hgiven, hfields⟩
    obtain ⟨hnamed, hentry⟩ := Json.entry?_of_closedRecord? hgiven
    refine ⟨hnamed, ?_⟩
    intro f hf
    rw [← hentry]
    exact hfields f hf
  · rintro ⟨hnamed, hfields⟩
    obtain ⟨given, hgiven⟩ := hnamed.closedRecord?
    refine ⟨given, hgiven, ?_⟩
    intro f hf
    rw [(Json.entry?_of_closedRecord? hgiven).2]
    exact hfields f hf

/-- What is read from a document in place of a record. -/
theorem reads_laid (h : r.Lawful) (old : σ) : r.read? j = some new ↔
    j.NamedBy r.names ∧ ∀ f ∈ r.fields, f.Laid true old (j.entry? r.names f.key) (f.get new) := by
  rw [h.reads_iff]
  unfold Field.Laid Field.Takes
  simp only [if_true]

/-- A record with an object over it: each of its fields stands in the document, with what the object has over it. -/
theorem reads_overlay_obj (h : r.Lawful) (hkeeps : ∀ f ∈ r.fields, f.Keeps old) {layer : Assoc String Json}
    (hasc : layer.Ascending) : r.read? ((r.toJson old).overlay (.obj layer)) = some new ↔
      (∀ k ∈ layer.keys, k ∈ r.names) ∧ ∀ f ∈ r.fields, f.Laid false old (layer.get? f.key) (f.get new) := by
  obtain ⟨base, hbase, hnames, hget⟩ := h.toJson_eq_obj old
  have hoverlay : (r.toJson old).overlay (.obj layer) = .obj (Json.overlayMembers base layer) := by
    rw [hbase, Json.overlay]
    rfl
  have hlaid : ∀ f ∈ r.fields,
      (f.Takes f.absent ((Json.overlayMembers base layer).get? f.key) (f.get new) ↔
        f.Laid false old (layer.get? f.key) (f.get new)) := by
    intro f hf
    rw [Json.get?_overlayMembers hasc, hget f hf]
    unfold Field.Laid Field.Takes
    cases layer.get? f.key with
    | some v => rfl
    | none =>
      -- the field is written as it was, and read again
      have hf : f.read (f.toJson (f.get old)) = some (f.get old) := hkeeps f hf
      simp only [hf, Option.some.injEq, Bool.false_eq_true, if_false]
      exact eq_comm
  have hkeys : (Json.obj (Json.overlayMembers base layer)).NamedBy r.names ↔ ∀ k ∈ layer.keys, k ∈ r.names := by
    unfold Json.NamedBy
    simp only [Json.mem_keys_overlayMembers]
    exact ⟨fun hall k hk => hall k (.inr hk), fun hall k hk => hk.elim (hnames k) (hall k)⟩
  rw [hoverlay, h.reads_iff, hkeys]
  exact and_congr_right fun _ => forall₂_congr hlaid

/-- What a record with a layer over it is read as. -/
theorem reads_overlay (h : r.Lawful) (hkeeps : ∀ f ∈ r.fields, f.Keeps old) (hj : j.Ordered) :
    r.read? ((r.toJson old).overlay j) = some new ↔
      j.NamedBy r.names ∧ ∀ f ∈ r.fields, f.Laid j.isList old (j.entry? r.names f.key) (f.get new) := by
  cases hj with
  | obj hasc _ => exact h.reads_overlay_obj hkeeps hasc
  | arr _ =>
    -- a list takes the place of the record
    rw [Json.overlay_eq_self rfl]
    exact h.reads_laid old
  | _ =>
    -- nothing else is a record
    rw [Json.overlay_eq_self rfl, h.reads_laid old]
    simp only [Json.NamedBy, false_and]

/-- A record whose fields are kept is itself kept: it is the same with nothing over it. -/
theorem keeps (h : r.Lawful) (hkeeps : ∀ f ∈ r.fields, f.Keeps old) : r.read? (r.toJson old) = some old := by
  obtain ⟨base, hbase, -, -⟩ := h.toJson_eq_obj old
  have hself : (r.toJson old).overlay (.obj []) = r.toJson old := by
    rw [hbase, Json.overlay, Json.overlayMembers]
    rfl
  rw [← hself, h.reads_overlay_obj hkeeps List.Pairwise.nil]
  refine ⟨by simp [Assoc.keys], ?_⟩
  intro f _
  exact rfl

end Lawful

end Record

end Settings

end AccessGate
