/-
What an operation does to a cluster. `Effect` lists the possibilities: it fails and does nothing, it
reads, it adds an object, it changes one, or it removes some, in each case only at places that the
operation reaches. Every operation has one of these effects on the cluster with its entry in the log
(`perform_effect`), and no other place is written (`perform_frame`).
-/
import AccessGate.Cluster.Action
import AccessGate.Proofs.Assoc

namespace AccessGate.Cluster

/-! ## Places -/

instance : Std.LawfulEqOrd Place where
  compare_self := by
    intro p
    show compareLex _ _ p p = .eq
    simp only [compareLex_eq_eq, compareOn, Std.ReflOrd.compare_self, and_self]
  eq_of_compare := by
    rintro ⟨g, r, ns, n⟩ ⟨g', r', ns', n'⟩ h
    change compareLex _ _ _ _ = .eq at h
    simp only [compareLex_eq_eq, compareOn] at h
    obtain ⟨hg, hr, hns, hn⟩ := h
    cases Std.LawfulEqOrd.eq_of_compare hg
    cases Std.LawfulEqOrd.eq_of_compare hr
    cases Std.LawfulEqOrd.eq_of_compare hns
    cases Std.LawfulEqOrd.eq_of_compare hn
    rfl

/-- Whether an operation that is aimed here, at an object of the given name if there is one, is about
a place. -/
def Target.Reaches (t : Target) (name : String) (p : Place) : Prop :=
  t.covers p = true ∧ (name = "" ∨ p.name = name)

theorem Target.covers_place (t : Target) (name : String) : t.covers (t.place name) = true := by
  simp [covers, place]

theorem Target.reaches_place (t : Target) (name : String) : t.Reaches name (t.place name) :=
  ⟨t.covers_place name, .inr rfl⟩

/-- The name that an operation is given; empty for a collection. -/
def Action.name : Action → String
  | .get name | .replace name _ | .patch name _ | .delete name => name
  | .getSub _ name | .createSub _ name _ | .replaceSub _ name _ | .patchSub _ name _ => name
  | .create o => o.metadata.name.getD ""
  | .list _ | .deleteCollection _ | .watch .. => ""

/-- The entry of an operation in the log. -/
def Action.entry (t : Target) : Action → String
  | .get _ => Store.logEntry "get" t none
  | .list _ => Store.logEntry "list" t none
  | .create _ => Store.logEntry "create" t none
  | .replace .. => Store.logEntry "update" t none
  | .patch .. => Store.logEntry "patch" t none
  | .delete _ => Store.logEntry "delete" t none
  | .deleteCollection _ => Store.logEntry "deletecollection" t none
  | .watch .. => Store.logEntry "watch" t none
  | .getSub sub _ => Store.logEntry "get" t (some sub)
  | .createSub sub .. => Store.logEntry "create" t (some sub)
  | .replaceSub sub .. => Store.logEntry "update" t (some sub)
  | .patchSub sub .. => Store.logEntry "patch" t (some sub)

/-- The objects that an answer carries. -/
def Product.objects : Product → List Object
  | .object o => [o]
  | .listing l => l.items
  | .stream w => w.initial
  | .done | .document _ => []

theorem exists_of_produce_ok {α : Type} {f : α → Product} {r : Except Error α × Store} {x : Product}
    (h : (produce f r).1 = .ok x) : ∃ y, f y = x := by
  obtain ⟨_ | y, s⟩ := r
  · cases h
  · exact ⟨y, Except.ok.inj h⟩

/-! ## Objects in their places -/

/-- Whether an object can be stored at a place: it has a name, the place has the same one and the same
namespace, and it has an identifier. -/
structure Object.FitsAt (o : Object) (p : Place) : Prop where
  named : p.name ≠ ""
  name : o.metadata.name = some p.name
  ns : o.metadata.ns = Store.namespaceField p.ns
  uid : o.metadata.uid.isSome = true

/-- Whether an object replaces another one without taking a new identity. -/
structure Object.Succeeds (new old : Object) : Prop where
  name : new.metadata.name = old.metadata.name
  ns : new.metadata.ns = old.metadata.ns
  uid : new.metadata.uid = old.metadata.uid

theorem Object.FitsAt.succeeds {new old : Object} {p : Place} (h : old.FitsAt p) (hs : new.Succeeds old) :
    new.FitsAt p :=
  ⟨h.named, hs.name.trans h.name, hs.ns.trans h.ns, by rw [hs.uid]; exact h.uid⟩

namespace Store

/-! ## Single writes -/

@[simp] theorem logged_objects (s : Store) (entry : String) : (s.logged entry).objects = s.objects := by
  unfold logged; split <;> rfl

@[simp] theorem logged_version (s : Store) (entry : String) : (s.logged entry).version = s.version := by
  unfold logged; split <;> rfl

@[simp] theorem logged_events (s : Store) (entry : String) : (s.logged entry).events = s.events := by
  unfold logged; split <;> rfl

/-- Whether two clusters hold the same objects, at the same version, and have published the same; their logs may
differ. -/
structure SameContent (s s' : Store) : Prop where
  objects : s'.objects = s.objects
  version : s'.version = s.version
  events : s'.events = s.events

theorem sameContent_logged (s : Store) (entry : String) : s.SameContent (s.logged entry) :=
  ⟨logged_objects s entry, logged_version s entry, logged_events s entry⟩

theorem SameContent.write {s s' : Store} (h : s.SameContent s') (c : Change) (p : Place) (o : Object) :
    (s.write c p o).SameContent (s'.write c p o) :=
  ⟨congrArg (Assoc.insert · p o) h.objects, congrArg (· + 1) h.version,
    congrArg (· ++ [(⟨c, p, o⟩ : Event)]) h.events⟩

theorem get?_write_of_ne (s : Store) (c : Change) {p q : Place} (o : Object) (h : q ≠ p) :
    (s.write c p o).objects.get? q = s.objects.get? q :=
  Assoc.get?_insert_of_ne h o s.objects

/-- Removals publish one event each, take no version and leave the other places alone. -/
theorem foldl_remove (bs : Assoc Place Object) : ∀ s : Store,
    (bs.foldl remove s).version = s.version ∧
    (bs.foldl remove s).events = s.events ++ bs.map (fun b => ⟨.deleted, b.1, b.2⟩) ∧
    (∀ b ∈ (bs.foldl remove s).objects, b ∈ s.objects) ∧
    ∀ q, (∀ b ∈ bs, b.1 ≠ q) → (bs.foldl remove s).objects.get? q = s.objects.get? q := by
  induction bs with
  | nil => intro s; simp
  | cons b bs ih =>
    intro s
    obtain ⟨hv, he, ho, hg⟩ := ih (s.remove b)
    refine ⟨hv, ?_, fun x hx => Assoc.mem_erase (ho x hx), fun q hq => ?_⟩
    · rw [List.foldl_cons, he]
      simp [remove]
    · rw [List.forall_mem_cons] at hq
      rw [List.foldl_cons, hg q hq.2]
      exact Assoc.get?_erase_of_ne (Ne.symm hq.1) s.objects

/-! ## Effects -/

/-- What an operation that is aimed at a target, at an object of the given name if there is one, may
give and do. -/
inductive Effect (t : Target) (name : String) (s : Store) : Except Error Product × Store → Prop
  | failed (e : Error) : Effect t name s (.error e, s)
  /-- What is read is stored at places that the operation reaches. A watch is opened on the whole collection,
  and goes on with what is published next. -/
  | read (a : Product) (stored : ∀ o ∈ a.objects, ∃ p, t.Reaches name p ∧ (p, o) ∈ s.objects)
      (opened : ∀ w, a = .stream w → name = "" ∧ w.target = t ∧ w.position = s.events.length) :
      Effect t name s (.ok a, s)
  | added (p : Place) (o : Object) (reached : t.Reaches name p) (absent : s.objects.get? p = none)
      (fits : o.FitsAt p) (version : o.metadata.resourceVersion = some s.nextVersion) :
      Effect t name s (.ok (.object o), s.write .added p o)
  | modified (p : Place) (old o : Object) (reached : t.Reaches name p) (present : s.objects.get? p = some old)
      (succeeds : o.Succeeds old) (version : o.metadata.resourceVersion = some s.nextVersion) :
      Effect t name s (.ok (.object o), s.write .modified p o)
  | removed (bs : Assoc Place Object) (present : ∀ b ∈ bs, b ∈ s.objects ∧ t.Reaches name b.1) :
      Effect t name s (.ok .done, bs.foldl remove s)

variable {t : Target} {name : String} {s : Store}

/-- An operation does nothing, stores the object that it gives, or removes objects and gives none. -/
theorem Effect.nothing_or_wrote_or_removed {r : Except Error Product × Store} (h : Effect t name s r) :
    r.2 = s ∨ (∃ c p o, r = (.ok (.object o), s.write c p o)) ∨ r.1 = .ok .done := by
  cases h with
  | failed e => exact .inl rfl
  | read => exact .inl rfl
  | added p o => exact .inr (.inl ⟨.added, p, o, rfl⟩)
  | modified p old o => exact .inr (.inl ⟨.modified, p, o, rfl⟩)
  | removed bs => exact .inr (.inr rfl)

/-- A name that was generated is not empty. -/
theorem newName_ok {fresh : Fresh} {m : Metadata} {n : String} (h : newName fresh m = .ok n) :
    n ≠ "" ∧ (m.name.getD "" = "" ∨ n = m.name.getD "") := by
  unfold newName at h
  split at h
  · cases h
  · rename_i hname hstart
    cases h
    exact ⟨fun he => hstart (String.append_eq_empty_iff.1 he).1, .inl hname⟩
  · rename_i hname _
    cases h
    exact ⟨hname, .inr rfl⟩

theorem insertNew_effect (s : Store) (fresh : Fresh) (t : Target) (o : Object) :
    Effect t (o.metadata.name.getD "") s (produce .object (s.insertNew fresh t o)) := by
  unfold insertNew
  cases hn : newName fresh o.metadata with
  | error e => exact .failed e
  | ok name =>
    cases checkNamespace t o.metadata with
    | error e => exact .failed e
    | ok _ =>
      obtain ⟨hne, hname⟩ := newName_ok hn
      by_cases hp : s.objects.has (t.place name) = true
      · simp only [if_pos hp]
        exact .failed _
      · simp only [if_neg hp]
        refine .added (t.place name) _ ⟨t.covers_place name, hname⟩ ?_ ⟨hne, rfl, rfl, rfl⟩ rfl
        simpa [Assoc.has] using hp

theorem modify_effect (s : Store) (t : Target) (name : String) (update : Object → Except Error Object) :
    Effect t name s (produce .object (s.modify t name update)) := by
  unfold modify
  simp only
  cases hp : s.objects.get? (t.place name) with
  | none => exact .failed _
  | some old =>
    simp only
    cases update old with
    | error e => exact .failed e
    | ok new => exact .modified (t.place name) old _ (t.reaches_place name) hp ⟨rfl, rfl, rfl⟩ rfl

theorem find_effect (s : Store) (t : Target) (name : String) :
    Effect t name s (produce .object (s.find t name, s)) := by
  unfold find
  cases hp : s.objects.get? (t.place name) with
  | none => exact .failed _
  | some o =>
    refine .read (.object o) (fun o' ho => ?_) (fun w hw => by cases hw)
    rw [List.mem_singleton.1 ho]
    exact ⟨_, t.reaches_place name, Assoc.mem_of_get? hp⟩

theorem mem_select {sel : Selector} {b : Place × Object} (h : b ∈ s.select t sel) :
    b ∈ s.objects ∧ t.Reaches "" b.1 := by
  obtain ⟨hb, hm⟩ := List.mem_filter.1 h
  exact ⟨hb, (Bool.and_eq_true_iff.1 hm).1, .inl rfl⟩

theorem mem_values_select {sel : Selector} {o : Object} (h : o ∈ (s.select t sel).values) :
    ∃ p, t.Reaches "" p ∧ (p, o) ∈ s.objects := by
  obtain ⟨⟨p, _⟩, hb, rfl⟩ := List.mem_map.1 h
  exact ⟨p, (mem_select hb).2, (mem_select hb).1⟩

/-- Every operation has one of the effects, once it is logged. -/
theorem perform_effect (s : Store) (fresh : Fresh) (t : Target) (a : Action) :
    Effect t a.name (s.logged (a.entry t)) (s.perform fresh t a) := by
  cases a with
  | get name => exact find_effect _ t name
  | list sel =>
    simp only [perform, produce, list]
    cases sel.selector with
    | error e => exact .failed e
    | ok sel => exact .read _ (fun o ho => mem_values_select ho) (fun w hw => by cases hw)
  | create o => exact insertNew_effect _ fresh t o
  | replace name o =>
    simp only [perform, replace]
    cases checkName name o.metadata with
    | error e => exact .failed e
    | ok _ => exact modify_effect ..
  | patch name p =>
    simp only [perform, patch]
    cases p.mergeContent with
    | error e => exact .failed e
    | ok content => exact modify_effect ..
  | delete name =>
    simp only [perform, delete]
    cases hp : (s.logged _).objects.get? (t.place name) with
    | none => exact .failed _
    | some o =>
      refine .removed [(t.place name, o)] (fun b hb => ?_)
      rw [List.mem_singleton.1 hb]
      exact ⟨Assoc.mem_of_get? hp, t.reaches_place name⟩
  | deleteCollection sel =>
    simp only [perform, deleteCollection]
    cases sel.selector with
    | error e => exact .failed e
    | ok sel => exact .removed _ (fun b hb => mem_select hb)
  | watch sel rv =>
    simp only [perform, produce, watch]
    cases sel.selector with
    | error e => exact .failed e
    | ok sel =>
      refine .read _ (fun o ho => ?_) (fun w hw => by cases hw; exact ⟨rfl, rfl, rfl⟩)
      simp only [Product.objects] at ho
      split at ho
      · exact mem_values_select ho
      · cases ho
  | getSub sub name =>
    simp only [perform, getSubresource]
    cases checkStatus sub with
    | error e => exact .failed e
    | ok _ => exact find_effect ..
  | createSub sub name body => exact .failed _
  | replaceSub sub name o =>
    simp only [perform, replaceSubresource]
    cases checkStatus sub with
    | error e => exact .failed e
    | ok _ => exact modify_effect ..
  | patchSub sub name p =>
    simp only [perform, patchSubresource]
    cases checkStatus sub with
    | error e => exact .failed e
    | ok _ =>
      cases p.mergeContent with
      | error e => exact .failed e
      | ok content => exact modify_effect ..

/-! ## What is left alone -/

/-- An effect leaves every place alone that it does not reach. -/
theorem Effect.get? {r : Except Error Product × Store} (h : Effect t name s r) {q : Place}
    (hq : ¬ t.Reaches name q) : r.2.objects.get? q = s.objects.get? q := by
  cases h with
  | failed e => rfl
  | read => rfl
  | added p o reached => exact get?_write_of_ne s _ o (fun e => hq (e ▸ reached))
  | modified p old o reached => exact get?_write_of_ne s _ o (fun e => hq (e ▸ reached))
  | removed bs present => exact (foldl_remove bs s).2.2.2 q fun b hb e => hq (e ▸ (present b hb).2)

/-- An operation leaves every place alone that it does not reach. -/
theorem perform_frame (s : Store) (fresh : Fresh) (t : Target) (a : Action) {q : Place}
    (hq : ¬ t.Reaches a.name q) : (s.perform fresh t a).2.objects.get? q = s.objects.get? q := by
  rw [(perform_effect s fresh t a).get? hq, logged_objects]

end Store

end AccessGate.Cluster
