/-
What clients see of a cluster over time. A history lists the calls made on an empty cluster, each with what it
gave. An object is current at a place if some call stored it there and no later call stored another one there or
removed it (`Current`), which is said of the history alone. One call changes the objects by storing one or by
dropping some (`objects_answer`). Main statement: reading a place gives its current object, a call about one place
does not change what is read at another, and a list gives the current objects of its collection that the selector
picks, each once and in order (`history_refines_map`).
-/
import AccessGate.Proofs.Cluster.Identity

namespace AccessGate.Cluster

/-! ## Exchanges -/

/-- Whether an operation is about one object whose name it is given. -/
def Action.isNamed : Action → Bool
  | .get _ | .replace .. | .patch .. | .delete _ | .getSub .. | .createSub .. | .replaceSub .. | .patchSub .. => true
  | .create _ | .list _ | .deleteCollection _ | .watch .. => false

/-- Whether a call is one that stores an object if it succeeds. -/
def Call.stores : Call → Bool
  | .seed .. => true
  | .operation _ a =>
    match a with
    | .create _ | .replace .. | .patch .. | .replaceSub .. | .patchSub .. => true
    | .get _ | .list _ | .delete _ | .deleteCollection _ | .watch .. | .getSub .. | .createSub .. => false

/-- A call with what it gave. -/
structure Exchange where
  call : Call
  answer : Except Error Product

/-- A call on a cluster with what it gives. -/
def Store.exchange (s : Store) (fresh : Fresh) (x : Call) : Exchange :=
  ⟨x, (s.answer fresh x).1⟩

namespace Exchange

/-- The place that a call is about, if it is about one. An object that is created is at the place of the name
that it was given. -/
def place? (x : Exchange) : Option Place :=
  match x.call, x.answer with
  | .seed .., .ok (.object o) | .operation _ (.create _), .ok (.object o) =>
    some (x.call.target.place (o.metadata.name.getD ""))
  | .operation t a, _ => if a.isNamed then some (t.place a.name) else none
  | .seed .., _ => none

/-- The object that a call stored, if it did, and where. -/
def stored? (x : Exchange) : Option (Place × Object) :=
  match x.answer with
  | .ok (.object o) => if x.call.stores then x.place?.map (·, o) else none
  | _ => none

/-- Whether a call removed an object that was at a place. -/
def removes (x : Exchange) (p : Place) (o : Object) : Bool :=
  match x.call, x.answer with
  | .operation t (.delete name), .ok _ => p = t.place name
  | .operation t (.deleteCollection sel), .ok _ =>
    match sel.selector with
    | .ok sel => t.covers p && sel.isMatch o
    | .error _ => false
  | _, _ => false

/-- Whether a call leaves an object at a place: it stored none there and did not remove it. -/
structure Spares (x : Exchange) (p : Place) (o : Object) : Prop where
  stored : ∀ o', x.stored? ≠ some (p, o')
  kept : x.removes p o = false

/-- A call that stores an object removes none. -/
theorem removes_of_stored? {x : Exchange} {b : Place × Object} (h : x.stored? = some b) (p : Place) (o : Object) :
    x.removes p o = false := by
  obtain ⟨call, answer⟩ := x
  rcases call with ⟨r, o⟩ | ⟨t, a⟩
  · rfl
  · cases a with
    | delete name | deleteCollection sel =>
      rcases answer with e | (_ | _ | _ | _ | _)
      all_goals cases h
    | _ => rfl

/-- A call stores an object only at the place that it is about. -/
theorem place?_of_stored? {x : Exchange} {p : Place} {o : Object} (h : x.stored? = some (p, o)) :
    x.place? = some p := by
  unfold stored? at h
  split at h
  · split at h
    · obtain ⟨q, hq, he⟩ := Option.map_eq_some_iff.1 h
      cases he
      exact hq
    · cases h
  · cases h

/-- A call that is about one place, or about none, removes no object elsewhere. -/
theorem removes_of_ne {x : Exchange} {p : Place} (hx : ∀ t sel, x.call ≠ .operation t (.deleteCollection sel))
    (hp : x.place? ≠ some p) (o : Object) : x.removes p o = false := by
  obtain ⟨call, answer⟩ := x
  rcases call with ⟨r, o'⟩ | ⟨t, a⟩
  · rfl
  · cases a with
    | delete name =>
      rcases answer with e | y
      · rfl
      · refine decide_eq_false fun he => hp ?_
        rw [he]
        rfl
    | deleteCollection sel => exact absurd rfl (hx t sel)
    | _ => rfl

/-- The objects after a call that gave this. -/
def applied (x : Exchange) (m : Assoc Place Object) : Assoc Place Object :=
  match x.stored? with
  | some b => m.insert b.1 b.2
  | none => m.filter fun b => !x.removes b.1 b.2

theorem applied_of_stored? {x : Exchange} {b : Place × Object} (h : x.stored? = some b) (m : Assoc Place Object) :
    x.applied m = m.insert b.1 b.2 := by
  unfold applied
  rw [h]

theorem applied_of_not_stored {x : Exchange} (h : x.stored? = none) (m : Assoc Place Object) :
    x.applied m = m.filter fun b => !x.removes b.1 b.2 := by
  unfold applied
  rw [h]

/-- A call that stores nothing and removes nothing leaves the objects alone. -/
theorem applied_of_reads {x : Exchange} (h : x.stored? = none) (hr : ∀ p o, x.removes p o = false)
    (m : Assoc Place Object) : x.applied m = m := by
  rw [applied_of_not_stored h]
  exact List.filter_eq_self.2 fun b _ => by rw [hr]; rfl

theorem stored?_of_not_stores {x : Exchange} (h : x.call.stores = false) : x.stored? = none := by
  unfold stored?
  split
  · rw [if_neg (by simp [h])]
  · rfl

theorem applied_of_error (x : Call) (e : Error) (m : Assoc Place Object) :
    (⟨x, .error e⟩ : Exchange).applied m = m := by
  refine applied_of_reads rfl (fun p o => ?_) m
  rcases x with ⟨r, o⟩ | ⟨t, a⟩
  · rfl
  · cases a <;> rfl

end Exchange

/-- Whether an object is the current one at a place after the given exchanges, the oldest first. -/
def Current (h : List Exchange) (p : Place) (o : Object) : Prop :=
  ∃ before x after, h = before ++ x :: after ∧ x.stored? = some (p, o) ∧ ∀ y ∈ after, y.Spares p o

theorem not_current_nil {p : Place} {o : Object} : ¬ Current [] p o := by
  rintro ⟨before, x, after, h, -⟩
  cases before <;> cases h

theorem current_snoc {h : List Exchange} {x : Exchange} {p : Place} {o : Object} :
    Current (h ++ [x]) p o ↔ x.stored? = some (p, o) ∨ Current h p o ∧ x.Spares p o := by
  constructor
  · rintro ⟨before, y, after, heq, hy, spares⟩
    rcases List.eq_nil_or_concat after with rfl | ⟨after, z, rfl⟩
    · obtain ⟨-, heq⟩ := List.append_inj' heq rfl
      cases heq
      exact .inl hy
    · rw [List.concat_eq_append, ← List.cons_append, ← List.append_assoc] at heq
      obtain ⟨rfl, hz⟩ := List.append_inj' heq rfl
      cases hz
      simp only [List.concat_eq_append, List.forall_mem_append, List.forall_mem_singleton] at spares
      exact .inr ⟨⟨before, y, after, rfl, hy, spares.1⟩, spares.2⟩
  · rintro (hx | ⟨⟨before, y, after, rfl, hy, spares⟩, hx⟩)
    · exact ⟨h, x, [], rfl, hx, fun _ hy => (nomatch hy)⟩
    · refine ⟨before, y, after ++ [x], by simp, hy, fun z hz => ?_⟩
      rcases List.mem_append.1 hz with hz | hz
      · exact spares z hz
      · exact List.mem_singleton.1 hz ▸ hx

/-! ## The objects after one call -/

instance : Std.TransOrd Place :=
  inferInstanceAs (Std.TransCmp (compareLex (compareOn Place.group) (compareLex (compareOn Place.plural)
    (compareLex (compareOn Place.ns) (compareOn Place.name)))))

namespace Store

variable {s : Store} {p : Place} {o : Object}

/-- What a call that may store an object gives and does: it fails, or it stores the object at the place that it is
about. -/
inductive StoresInPlace (s : Store) (x : Call) : Except Error Object × Store → Prop
  | failed (e : Error) : StoresInPlace s x (.error e, s.recorded x)
  | stored (c : Change) (p : Place) (o : Object) (place : (⟨x, .ok (.object o)⟩ : Exchange).place? = some p) :
      StoresInPlace s x (.ok o, (s.recorded x).write c p o)

theorem storesInPlace_insertNew {x : Call} {t : Target}
    (place : ∀ (o : Object) name, o.metadata.name = some name →
      (⟨x, .ok (.object o)⟩ : Exchange).place? = some (t.place name)) (fresh : Fresh) (o : Object) :
    StoresInPlace s x ((s.recorded x).insertNew fresh t o) := by
  unfold insertNew
  cases newName fresh o.metadata with
  | error e => exact .failed e
  | ok name =>
    cases checkNamespace t o.metadata with
    | error e => exact .failed e
    | ok _ =>
      by_cases hp : (s.recorded x).objects.has (t.place name) = true
      · simp only [if_pos hp]
        exact .failed _
      · simp only [if_neg hp]
        exact .stored .added _ _ (place _ name rfl)

theorem storesInPlace_modify {x : Call} {t : Target} {name : String}
    (place : ∀ o, (⟨x, .ok (.object o)⟩ : Exchange).place? = some (t.place name))
    (update : Object → Except Error Object) : StoresInPlace s x ((s.recorded x).modify t name update) := by
  unfold modify
  simp only
  cases (s.recorded x).objects.get? (t.place name) with
  | none => exact .failed _
  | some old =>
    simp only
    cases update old with
    | error e => exact .failed e
    | ok new => exact .stored .modified _ _ (place _)

/-- Removals drop the objects of the places that they are about. -/
theorem objects_removed (bs : Assoc Place Object) : ∀ s : Store,
    (bs.foldl remove s).objects = s.objects.filter fun b => !bs.has b.1 := by
  induction bs with
  | nil => exact fun s => (List.filter_eq_self.2 fun _ _ => rfl).symm
  | cons b bs ih =>
    intro s
    rw [List.foldl_cons, ih]
    show (s.objects.erase b.1).filter _ = _
    rw [Assoc.erase, List.filter_filter]
    refine List.filter_congr fun c _ => ?_
    by_cases hc : c.1 = b.1 <;> simp [Assoc.has, Assoc.get?_cons, hc]

/-- Among the objects of a cluster, those that are selected are the ones at the places that are. -/
theorem has_select (h : s.objects.Ascending) (t : Target) (sel : Selector) {b : Place × Object} (hb : b ∈ s.objects) :
    (s.select t sel).has b.1 = (t.covers b.1 && sel.isMatch b.2) := by
  rw [Bool.eq_iff_iff, Assoc.has, Option.isSome_iff_exists]
  constructor
  · rintro ⟨o, ho⟩
    obtain ⟨hget, hm⟩ := (h.get?_filter _).1 ho
    cases hget.symm.trans (h.get?_of_mem hb)
    exact hm
  · exact fun hm => ⟨b.2, (h.get?_filter _).2 ⟨h.get?_of_mem hb, hm⟩⟩

theorem objects_of_answer {x : Call} {r : Except Error Product × Store} (fresh : Fresh) (h : s.answer fresh x = r)
    (applied : r.2.objects = (⟨x, r.1⟩ : Exchange).applied s.objects) :
    (s.answer fresh x).2.objects = (s.exchange fresh x).applied s.objects := by
  unfold exchange
  rw [h]
  exact applied

/-- A call that only reads leaves the objects alone, whatever it gives. -/
theorem objects_of_reads {x : Call} {fresh : Fresh} (hx : x.stores = false)
    (hr : ∀ a p o, (⟨x, a⟩ : Exchange).removes p o = false) (h : (s.answer fresh x).2.objects = s.objects) :
    (s.answer fresh x).2.objects = (s.exchange fresh x).applied s.objects := by
  have hnot : (s.exchange fresh x).stored? = none := Exchange.stored?_of_not_stores hx
  rw [h, Exchange.applied_of_reads hnot (hr _)]

theorem objects_of_error {x : Call} {e : Error} (fresh : Fresh) (h : s.answer fresh x = (.error e, s.recorded x)) :
    (s.answer fresh x).2.objects = (s.exchange fresh x).applied s.objects := by
  refine objects_of_answer fresh h ?_
  rw [Exchange.applied_of_error]
  exact (sameContent_recorded s x).objects

theorem objects_of_stores {x : Call} {fresh : Fresh} {r : Except Error Object × Store}
    (h : s.answer fresh x = produce .object r) (hx : x.stores = true) (hr : StoresInPlace s x r) :
    (s.answer fresh x).2.objects = (s.exchange fresh x).applied s.objects := by
  cases hr with
  | failed e => exact objects_of_error fresh h
  | stored c p o place =>
    refine objects_of_answer fresh h ?_
    have hstored : (⟨x, .ok (.object o)⟩ : Exchange).stored? = some (p, o) := by
      simp [Exchange.stored?, hx, place]
    show (s.recorded x).objects.insert p o = (⟨x, .ok (.object o)⟩ : Exchange).applied s.objects
    rw [Exchange.applied_of_stored? hstored, (sameContent_recorded s x).objects]

theorem objects_delete (s : Store) (fresh : Fresh) (t : Target) (name : String) :
    (s.answer fresh (.operation t (.delete name))).2.objects =
      (s.exchange fresh (.operation t (.delete name))).applied s.objects := by
  cases hp : s.objects.get? (t.place name) with
  | none =>
    refine objects_of_error fresh (e := .notFound (t.place name).plural name) ?_
    simp [answer, perform, delete, hp, produce, recorded, Action.entry, Except.map]
  | some o =>
    have hans : s.answer fresh (.operation t (.delete name)) =
        (.ok .done, (s.recorded (.operation t (.delete name))).remove (t.place name, o)) := by
      simp [answer, perform, delete, hp, produce, recorded, Action.entry, Except.map]
    refine objects_of_answer fresh hans ?_
    rw [Exchange.applied_of_not_stored rfl]
    show (s.recorded _).objects.erase (t.place name) = _
    rw [(sameContent_recorded s _).objects, Assoc.erase]
    exact List.filter_congr fun b _ => by simp [Exchange.removes]

theorem objects_deleteCollection (h : s.objects.Ascending) (fresh : Fresh) (t : Target) (sel : Selection) :
    (s.answer fresh (.operation t (.deleteCollection sel))).2.objects =
      (s.exchange fresh (.operation t (.deleteCollection sel))).applied s.objects := by
  cases hsel : sel.selector with
  | error e =>
    refine objects_of_error fresh (e := e) ?_
    simp [answer, perform, deleteCollection, hsel, produce, recorded, Action.entry, Except.map]
  | ok terms =>
    have hans : s.answer fresh (.operation t (.deleteCollection sel)) =
        (.ok .done, (s.select t terms).foldl remove (s.recorded (.operation t (.deleteCollection sel)))) := by
      simp [answer, perform, deleteCollection, hsel, produce, recorded, Action.entry, select, Except.map]
    refine objects_of_answer fresh hans ?_
    rw [Exchange.applied_of_not_stored rfl, objects_removed, (sameContent_recorded s _).objects]
    refine List.filter_congr fun b hb => ?_
    rw [has_select h t terms hb]
    simp [Exchange.removes, hsel]

/-- What a call does to the objects of a cluster can be told from what it gives. -/
theorem objects_answer (h : s.objects.Ascending) (fresh : Fresh) (x : Call) :
    (s.answer fresh x).2.objects = (s.exchange fresh x).applied s.objects := by
  cases x with
  | seed r o =>
    refine objects_of_stores rfl rfl (storesInPlace_insertNew (fun o' name hn => ?_) fresh o)
    simp [Exchange.place?, Call.target, hn]
  | operation t a =>
    cases a with
    | get name => exact objects_of_reads rfl (fun _ _ _ => rfl) (logged_objects s _)
    | list sel => exact objects_of_reads rfl (fun _ _ _ => rfl) (logged_objects s _)
    | watch sel rv => exact objects_of_reads rfl (fun _ _ _ => rfl) (logged_objects s _)
    | createSub sub name body => exact objects_of_reads rfl (fun _ _ _ => rfl) (logged_objects s _)
    | getSub sub name =>
      refine objects_of_reads rfl (fun _ _ _ => rfl) ?_
      simp only [answer, perform, produce, getSubresource]
      split <;> exact logged_objects s _
    | create o =>
      refine objects_of_stores rfl rfl (storesInPlace_insertNew (fun o' name hn => ?_) fresh o)
      simp [Exchange.place?, Call.target, hn]
    | replace name o =>
      refine objects_of_stores rfl rfl ?_
      simp only [replace]
      cases checkName name o.metadata with
      | error e => exact .failed e
      | ok _ => exact storesInPlace_modify (fun _ => rfl) _
    | patch name p =>
      refine objects_of_stores rfl rfl ?_
      simp only [patch]
      cases p.mergeContent with
      | error e => exact .failed e
      | ok content => exact storesInPlace_modify (fun _ => rfl) _
    | replaceSub sub name o =>
      refine objects_of_stores rfl rfl ?_
      simp only [replaceSubresource]
      cases checkStatus sub with
      | error e => exact .failed e
      | ok _ => exact storesInPlace_modify (fun _ => rfl) _
    | patchSub sub name p =>
      refine objects_of_stores rfl rfl ?_
      simp only [patchSubresource]
      cases checkStatus sub with
      | error e => exact .failed e
      | ok _ =>
        cases p.mergeContent with
        | error e => exact .failed e
        | ok content => exact storesInPlace_modify (fun _ => rfl) _
    | delete name => exact objects_delete s fresh t name
    | deleteCollection sel => exact objects_deleteCollection h fresh t sel

theorem ascending_answer (h : s.objects.Ascending) (fresh : Fresh) (x : Call) :
    (s.answer fresh x).2.objects.Ascending := by
  rw [objects_answer h]
  unfold Exchange.applied
  split
  · exact h.insert _ _
  · exact h.filter _

/-- After a call an object is at a place if the call stored it there, or if it was there and the call spares it. -/
theorem get?_answer (h : s.objects.Ascending) (fresh : Fresh) (x : Call) :
    (s.answer fresh x).2.objects.get? p = some o ↔
      (s.exchange fresh x).stored? = some (p, o) ∨
        s.objects.get? p = some o ∧ (s.exchange fresh x).Spares p o := by
  rw [objects_answer h]
  generalize s.exchange fresh x = y
  cases hy : y.stored? with
  | none =>
    rw [Exchange.applied_of_not_stored hy, h.get?_filter]
    have hspares : y.Spares p o ↔ y.removes p o = false :=
      ⟨fun h => h.kept, fun h => ⟨fun _ => by rw [hy]; exact nofun, h⟩⟩
    simp [hspares]
  | some b =>
    rw [Exchange.applied_of_stored? hy]
    by_cases hp : p = b.1
    · -- the call stored an object at this very place, so it spares none there
      subst hp
      have hnot : ¬ y.Spares b.1 o := fun hs => hs.stored b.2 hy
      rw [Assoc.get?_insert_self]
      simp [hnot, Prod.ext_iff]
    · have hspares : y.Spares p o :=
        ⟨fun o' he => hp (congrArg Prod.fst (Option.some.inj (hy.symm.trans he))).symm,
          Exchange.removes_of_stored? hy p o⟩
      rw [Assoc.get?_insert_of_ne hp]
      simp [hspares, Prod.ext_iff, Ne.symm hp]

/-- A call about one place, or about none, leaves the other places alone. -/
theorem get?_answer_of_ne (h : s.objects.Ascending) (fresh : Fresh) {x : Call}
    (hx : ∀ t sel, x ≠ .operation t (.deleteCollection sel)) (hp : (s.exchange fresh x).place? ≠ some p) :
    (s.answer fresh x).2.objects.get? p = s.objects.get? p := by
  have hstored : ∀ o, (s.exchange fresh x).stored? ≠ some (p, o) := fun o he =>
    hp (Exchange.place?_of_stored? he)
  refine Option.ext fun o => ?_
  rw [get?_answer h]
  constructor
  · rintro (he | ⟨ho, -⟩)
    · exact absurd he (hstored o)
    · exact ho
  · exact fun ho => .inr ⟨ho, hstored, Exchange.removes_of_ne hx hp o⟩

end Store

/-! ## Histories -/

/-- The exchanges, the oldest first, that lead from an empty cluster to another one. -/
inductive History : List Exchange → Store → Prop
  | start (n : Nat) : History [] (Store.withLogCapacity n)
  | call {h : List Exchange} {s : Store} (before : History h s) (fresh : Fresh) (x : Call) :
      History (h ++ [s.exchange fresh x]) (s.answer fresh x).2

namespace History

variable {h : List Exchange} {s : Store} {p : Place} {o : Object}

theorem reachable (hist : History h s) : s.Reachable := by
  induction hist with
  | start n => exact .start n
  | call _ fresh x ih => exact ih.step (Store.step_answer _ fresh x)

theorem ascending (hist : History h s) : s.objects.Ascending := by
  induction hist with
  | start n => exact List.Pairwise.nil
  | call _ fresh x ih => exact Store.ascending_answer ih fresh x

/-- By induction on the history: what is at a place is what is current there. -/
theorem get?_iff_current (hist : History h s) : s.objects.get? p = some o ↔ Current h p o := by
  induction hist with
  | start n => exact ⟨nofun, fun hc => absurd hc not_current_nil⟩
  | call before fresh x ih => rw [Store.get?_answer before.ascending, current_snoc, ih]

end History

/-! ## Reading -/

/-- Whether an object comes before another one by namespace and name. -/
def Object.Precedes (o o' : Object) : Prop :=
  o.metadata.ns.getD "" < o'.metadata.ns.getD "" ∨
    o.metadata.ns.getD "" = o'.metadata.ns.getD "" ∧ o.metadata.name.getD "" < o'.metadata.name.getD ""

theorem compare_place_eq_lt {p q : Place} (hg : p.group = q.group) (hr : p.plural = q.plural)
    (h : compare p q = .lt) : p.ns < q.ns ∨ p.ns = q.ns ∧ p.name < q.name := by
  change compareLex _ _ p q = .lt at h
  simp only [compareLex, compareOn, hg, hr, Std.ReflOrd.compare_self, Ordering.eq_then, Ordering.then_eq_lt] at h
  rcases h with h | ⟨hns, h⟩
  · exact .inl (compareOfLessAndEq_eq_lt.1 h)
  · exact .inr ⟨Std.LawfulEqOrd.eq_of_compare hns, compareOfLessAndEq_eq_lt.1 h⟩

theorem Target.covers_iff {t : Target} {p : Place} : t.covers p = true ↔
    p.group = t.resource.group ∧ p.plural = t.resource.plural ∧ (t.ns = "" ∨ p.ns = t.ns) := by
  simp [covers, and_assoc]

theorem Object.FitsAt.getD_ns {o : Object} {p : Place} (h : o.FitsAt p) : o.metadata.ns.getD "" = p.ns := by
  rw [h.ns, Store.namespaceField]
  split
  · rename_i hns
    exact hns.symm
  · rfl

theorem Object.FitsAt.getD_name {o : Object} {p : Place} (h : o.FitsAt p) : o.metadata.name.getD "" = p.name := by
  rw [h.name]
  rfl

namespace Store

variable {s : Store}

theorem get_eq (s : Store) (t : Target) (name : String) : (s.get t name).1 = s.find t name := by
  show (s.logged _).find t name = s.find t name
  unfold find
  rw [logged_objects]

/-- The status is read with the object. -/
theorem getSubresource_eq (s : Store) (t : Target) (name : String) :
    (s.getSubresource t "status" name).1 = s.find t name := by
  unfold getSubresource
  rw [checkStatus, if_pos rfl]
  show (s.logged _).find t name = s.find t name
  unfold find
  rw [logged_objects]

theorem find_eq_ok {t : Target} {name : String} {o : Object} :
    s.find t name = .ok o ↔ s.objects.get? (t.place name) = some o := by
  unfold find
  cases s.objects.get? (t.place name) <;> simp

theorem mem_values_select_iff {t : Target} {sel : Selector} {o : Object} :
    o ∈ (s.select t sel).values ↔ ∃ p, (p, o) ∈ s.objects ∧ t.covers p = true ∧ sel.isMatch o = true := by
  unfold Assoc.values select
  simp

/-- A selection lists the objects of its collection in the order of namespaces and names. -/
theorem pairwise_select (hs : s.Reachable) (h : s.objects.Ascending) (t : Target) (sel : Selector) :
    (s.select t sel).values.Pairwise Object.Precedes := by
  refine List.pairwise_map.2 (List.Pairwise.imp_of_mem ?_ (h.filter _))
  intro b b' hb hb' hlt
  have fits : ∀ {b : Place × Object}, b ∈ s.select t sel → b.2.FitsAt b.1 ∧ t.covers b.1 = true := fun hb =>
    ⟨hs.sound.fits (hs.sound.published _ (mem_select hb).1), (mem_select hb).2.1⟩
  obtain ⟨hfit, hcov⟩ := fits hb
  obtain ⟨hfit', hcov'⟩ := fits hb'
  obtain ⟨hg, hr, -⟩ := Target.covers_iff.1 hcov
  obtain ⟨hg', hr', -⟩ := Target.covers_iff.1 hcov'
  unfold Object.Precedes
  rw [hfit.getD_ns, hfit'.getD_ns, hfit.getD_name, hfit'.getD_name]
  exact compare_place_eq_lt (hg.trans hg'.symm) (hr.trans hr'.symm) hlt

end Store

/-- After any history: a read of a place gives the object that is current there, or that there is none, and the status
is read with the object. A call about one place does not change what is read at any other, of the object or of the
status. And a list whose selector can be read gives the current objects of the resource type, in the namespace or in
all if none is given, whose labels satisfy every term, in the strict order of namespaces and names, so each once. -/
theorem history_refines_map {h : List Exchange} {s : Store} (hist : History h s) :
    (∀ t name o, (s.get t name).1 = .ok o ↔ Current h (t.place name) o) ∧
    (∀ t name, (∀ o, ¬ Current h (t.place name) o) →
      (s.get t name).1 = .error (.notFound t.resource.plural name)) ∧
    (∀ t name, (s.getSubresource t "status" name).1 = (s.get t name).1) ∧
    (∀ fresh x t name, (∀ u sel, x ≠ .operation u (.deleteCollection sel)) →
      (s.exchange fresh x).place? ≠ some (t.place name) →
      ((s.answer fresh x).2.get t name).1 = (s.get t name).1 ∧
        ((s.answer fresh x).2.getSubresource t "status" name).1 = (s.getSubresource t "status" name).1) ∧
    ∀ t sel terms, sel.selector = .ok terms → ∃ l, (s.list t sel).1 = .ok l ∧
      (∀ o, o ∈ l.items ↔ ∃ p, Current h p o ∧ p.group = t.resource.group ∧ p.plural = t.resource.plural ∧
        (t.ns = "" ∨ p.ns = t.ns) ∧ ∀ r ∈ terms, r.holds o.labels = true) ∧
      l.items.Pairwise Object.Precedes := by
  have asc := hist.ascending
  refine ⟨fun t name o => ?_, fun t name hno => ?_, fun t name => ?_, fun fresh x t name hx hp => ?_,
    fun t sel terms hsel => ?_⟩
  · rw [Store.get_eq, Store.find_eq_ok, hist.get?_iff_current]
  · rw [Store.get_eq, Store.find]
    cases ho : s.objects.get? (t.place name) with
    | none => rfl
    | some o => exact absurd (hist.get?_iff_current.1 ho) (hno o)
  · rw [Store.getSubresource_eq, Store.get_eq]
  · rw [Store.get_eq, Store.get_eq, Store.getSubresource_eq, Store.getSubresource_eq]
    have hsame : (s.answer fresh x).2.find t name = s.find t name := by
      rw [Store.find, Store.find, Store.get?_answer_of_ne asc fresh hx hp]
    exact ⟨hsame, hsame⟩
  · refine ⟨⟨some (toString s.version), none, (s.select t terms).values⟩, ?_, fun o => ?_,
      Store.pairwise_select hist.reachable asc t terms⟩
    · simp [Store.list, hsel, Store.select, Except.map]
    · rw [Store.mem_values_select_iff]
      refine exists_congr fun p => ?_
      rw [← asc.get?_eq_some_iff, hist.get?_iff_current, Target.covers_iff]
      simp only [Selector.isMatch, List.all_eq_true, and_assoc]

open Store in
/-- A patch of the stage that changes what it asks for, and that stage afterwards. -/
def patchSpec : Call :=
  .operation ⟨stages, "demo"⟩ (.patch "test" ⟨.merge, .obj [("spec", .obj [("shard", .str "b")])]⟩)

open Store in
def patchedStage : Object :=
  { testStage with
    metadata := { testStage.metadata with uid := some "u1", resourceVersion := some "2" }
    data := [("spec", .obj [("shard", .str "b")]), ("status", .obj [("phase", .str "Steady")])] }

open Store in
/-- After the patch, the patched stage is the current one, and so it is read. -/
theorem patched_stage_current :
    let h := [(withLogCapacity 2).exchange ⟨"u1", ""⟩ (.seed stages testStage), oneStage.exchange ⟨"u2", ""⟩ patchSpec]
    History h (oneStage.answer ⟨"u2", ""⟩ patchSpec).2 ∧
      Current h ⟨"kargo.akuity.io", "stages", "demo", "test"⟩ patchedStage := by
  intro h
  have hist : History h (oneStage.answer ⟨"u2", ""⟩ patchSpec).2 :=
    .call (.call (.start 2) ⟨"u1", ""⟩ (.seed stages testStage)) ⟨"u2", ""⟩ patchSpec
  have hread : ((oneStage.answer ⟨"u2", ""⟩ patchSpec).2.get ⟨stages, "demo"⟩ "test").1 = .ok patchedStage := by rfl
  exact ⟨hist, ((history_refines_map hist).1 ⟨stages, "demo"⟩ "test" patchedStage).1 hread⟩

end AccessGate.Cluster
