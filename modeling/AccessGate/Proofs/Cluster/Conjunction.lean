/-
Label selectors joined by commas. The terms of joined selector texts are those of the first and then those of the
second, whatever the texts are (`terms_append`), so reading them is reading one after the other and a list with the
joined selector gives what both lists give. Main statement: `joined_selectors_conjunction`.
-/
import AccessGate.Proofs.Cluster.Collection
import AccessGate.Proofs.Outcome
import AccessGate.Proofs.Text.Split

namespace AccessGate.Cluster

/-! ## Reading joined selectors -/

namespace Selector

/-- A comma ends a term and starts another one, wherever it stands. -/
theorem terms_append (a b : String) : terms (a ++ "," ++ b) = terms a ++ terms b := by
  have htext : (a ++ "," ++ b).toList = a.toList ++ ',' :: b.toList := by simp
  unfold terms
  rw [htext, Text.splitChars_append_sep, List.map_append, List.filter_append]

theorem terms_intercalate : ∀ ps : List String, terms (",".intercalate ps) = ps.flatMap terms
  | [] => by rfl
  | [p] => by simp
  | p :: q :: ps => by
    rw [String.intercalate_cons_cons, terms_append, terms_intercalate (q :: ps)]
    rfl

theorem parse_append (a b : String) : parse (a ++ "," ++ b) = (parse a).bind fun ra => (parse b).map (ra ++ ·) := by
  unfold parse
  rw [terms_append, List.mapM_append]
  cases (terms a).mapM Requirement.ofTerm with
  | error e => rfl
  | ok ra => cases (terms b).mapM Requirement.ofTerm <;> rfl

/-- Texts with the same terms, in whatever order and however often, are read as the same terms. -/
theorem parse_of_same_terms {a b : String} (h : ∀ w, w ∈ terms a ↔ w ∈ terms b) {ra : Selector}
    (ha : parse a = .ok ra) :
    ∃ rb, parse b = .ok rb ∧ ∀ r, r ∈ ra ↔ r ∈ rb := by
  have hread := mapM_ok_iff.1 ⟨ra, ha⟩
  obtain ⟨rb, hb⟩ := mapM_ok_iff.2 fun w hw => hread w ((h w).2 hw)
  refine ⟨rb, hb, fun r => ?_⟩
  rw [mem_mapM_iff ha, mem_mapM_iff hb]
  exact exists_congr fun w => and_congr_left fun _ => h w

theorem isMatch_iff {sel : Selector} {o : Object} : sel.isMatch o = true ↔ ∀ r ∈ sel, r.holds o.labels = true :=
  List.all_eq_true

theorem isMatch_append (ra rb : Selector) (o : Object) : isMatch (ra ++ rb) o = (isMatch ra o && isMatch rb o) :=
  List.all_append

end Selector

theorem Selection.selector_eq {sel : Selection} (h : sel.fields.getD "" = "") :
    sel.selector = Selector.parse (sel.labels.getD "") := by
  unfold selector
  split
  · rfl
  · rename_i hno
    exact absurd h hno

/-- A selection can be read exactly if it selects by no field and its label selector can be read. -/
theorem Selection.selector_eq_ok {sel : Selection} {terms : Selector} :
    sel.selector = .ok terms ↔ sel.fields.getD "" = "" ∧ Selector.parse (sel.labels.getD "") = .ok terms := by
  unfold selector
  split
  · rename_i h
    exact (and_iff_right h).symm
  · rename_i h
    exact ⟨fun hno => (nomatch hno), fun hyes => absurd hyes.1 h⟩

/-! ## Selecting with joined selectors -/

namespace Store

variable {s : Store} {t : Target} {ra rb : Selector}

theorem select_congr (h : ∀ r, r ∈ ra ↔ r ∈ rb) : s.select t ra = s.select t rb := by
  unfold select
  refine List.filter_congr fun b _ => congrArg _ (Bool.eq_iff_iff.2 ?_)
  rw [Selector.isMatch_iff, Selector.isMatch_iff]
  exact forall_congr' fun r => imp_congr_left (h r)

/-- A selector picks among the objects of a collection. -/
theorem values_select_append (s : Store) (t : Target) (ra rb : Selector) :
    (s.select t (ra ++ rb)).values = (s.select t ra).values.filter rb.isMatch := by
  unfold Assoc.values select
  rw [List.filter_map, List.filter_filter]
  refine congrArg _ (List.filter_congr fun b _ => ?_)
  rw [Selector.isMatch_append, ← Bool.and_assoc]
  exact Bool.and_comm ..

theorem select_append_comm (s : Store) (t : Target) (ra rb : Selector) :
    s.select t (ra ++ rb) = s.select t (rb ++ ra) :=
  select_congr fun r => by rw [List.mem_append, List.mem_append, or_comm]

/-- What both selectors pick is what one picks among what the other does. -/
theorem values_select_both (s : Store) (t : Target) (ra rb : Selector) :
    (s.select t (ra ++ rb)).values = (s.select t ra).values.filter (· ∈ (s.select t rb).values) := by
  rw [values_select_append]
  refine List.filter_congr fun o ho => Bool.eq_iff_iff.2 ?_
  obtain ⟨p, hp, hcovers, -⟩ := mem_values_select_iff.1 ho
  rw [decide_eq_true_iff, mem_values_select_iff]
  exact ⟨fun hmatch => ⟨p, hp, hcovers, hmatch⟩, fun ⟨_, _, _, hmatch⟩ => hmatch⟩

end Store

/-- Selector texts joined by a comma fail to be read with the error of the first, else with that of the second, and
otherwise are read as the terms of both. A list with the joined selector gives the objects that both lists give, in
their order. And of texts that are joined by commas neither the order nor repetitions have an effect on what a list
gives. -/
theorem joined_selectors_conjunction :
    (∀ a b,
      (∀ e, Selector.parse a = .error e → Selector.parse (a ++ "," ++ b) = .error e) ∧
      (∀ ra e, Selector.parse a = .ok ra → Selector.parse b = .error e →
        Selector.parse (a ++ "," ++ b) = .error e) ∧
      (∀ ra rb, Selector.parse a = .ok ra → Selector.parse b = .ok rb →
        Selector.parse (a ++ "," ++ b) = .ok (ra ++ rb))) ∧
    (∀ (s : Store) t (sel : Selection) a b la lb, (s.list t { sel with labels := some a }).1 = .ok la →
      (s.list t { sel with labels := some b }).1 = .ok lb →
      ∃ l, (s.list t { sel with labels := some (a ++ "," ++ b) }).1 = .ok l ∧
        l.items = la.items.filter (· ∈ lb.items) ∧ l.items = lb.items.filter (· ∈ la.items)) ∧
    (∀ (s : Store) t (sel : Selection) ps qs l, (∀ p, p ∈ ps ↔ p ∈ qs) →
      (s.list t { sel with labels := some (",".intercalate ps) }).1 = .ok l →
      ∃ l', (s.list t { sel with labels := some (",".intercalate qs) }).1 = .ok l' ∧ l'.items = l.items) := by
  refine ⟨fun a b => ⟨fun e ha => ?_, fun ra e ha hb => ?_, fun ra rb ha hb => ?_⟩,
    fun s t sel a b la lb hla hlb => ?_, fun s t sel ps qs l hsame hl => ?_⟩
  · rw [Selector.parse_append, ha]
    rfl
  · rw [Selector.parse_append, ha, hb]
    rfl
  · rw [Selector.parse_append, ha, hb]
    rfl
  · obtain ⟨ra, hra, rfl⟩ := Store.list_eq_ok.1 hla
    obtain ⟨rb, hrb, rfl⟩ := Store.list_eq_ok.1 hlb
    obtain ⟨hfields, ha⟩ := Selection.selector_eq_ok.1 hra
    obtain ⟨-, hb⟩ := Selection.selector_eq_ok.1 hrb
    have hjoined : Selection.selector { sel with labels := some (a ++ "," ++ b) } = .ok (ra ++ rb) := by
      refine Selection.selector_eq_ok.2 ⟨hfields, ?_⟩
      show Selector.parse (a ++ "," ++ b) = _
      rw [Selector.parse_append, show Selector.parse a = _ from ha, show Selector.parse b = _ from hb]
      rfl
    refine ⟨_, Store.list_eq s t hjoined, Store.values_select_both s t ra rb, ?_⟩
    show (s.select t (ra ++ rb)).values = _
    rw [Store.select_append_comm, Store.values_select_both]
  · obtain ⟨rp, hrp, rfl⟩ := Store.list_eq_ok.1 hl
    obtain ⟨hfields, hp⟩ := Selection.selector_eq_ok.1 hrp
    have hterms : ∀ w, w ∈ Selector.terms (",".intercalate ps) ↔ w ∈ Selector.terms (",".intercalate qs) := by
      intro w
      rw [Selector.terms_intercalate, Selector.terms_intercalate, List.mem_flatMap, List.mem_flatMap]
      exact exists_congr fun p => and_congr_left fun _ => hsame p
    obtain ⟨rq, hq, hmem⟩ := Selector.parse_of_same_terms hterms hp
    have hrq : Selection.selector { sel with labels := some (",".intercalate qs) } = .ok rq :=
      Selection.selector_eq_ok.2 ⟨hfields, hq⟩
    exact ⟨_, Store.list_eq s t hrq, congrArg Assoc.values (Store.select_congr hmem).symm⟩

/-- Of the stages that are in a tier, those that are not in development are listed by both selectors joined, in whatever
order and however often; and a set after a comma is refused. -/
theorem tiers_listed_by_joined_selectors :
    let all : Target := ⟨Store.stages, ""⟩
    let listed := fun labels => (Store.tieredStages.list all { labels := some labels }).1
    (∃ la lb l l', listed "tier" = .ok la ∧ la.items.length = 2 ∧ listed "tier!=dev" = .ok lb ∧
      listed "tier,tier!=dev" = .ok l ∧ l.items = la.items.filter (· ∈ lb.items) ∧ l.items.length = 1 ∧
      listed "tier!=dev,tier,tier!=dev" = .ok l' ∧ l'.items = l.items) ∧
    ∃ e, Selector.parse " tier notin ()" = .error e ∧ Selector.parse "tier, tier notin ()" = .error e := by
  intro all listed
  obtain ⟨hread, hboth, hsame⟩ := joined_selectors_conjunction
  obtain ⟨la, hla⟩ : ∃ la, listed "tier" = .ok la := ⟨_, by rfl⟩
  obtain ⟨lb, hlb⟩ : ∃ lb, listed "tier!=dev" = .ok lb := ⟨_, by rfl⟩
  obtain ⟨l, hl, hitems, -⟩ := hboth Store.tieredStages all {} "tier" "tier!=dev" la lb hla hlb
  obtain ⟨l', hl', hitems'⟩ :=
    hsame Store.tieredStages all {} ["tier", "tier!=dev"] ["tier!=dev", "tier", "tier!=dev"] l
    (by simp [or_comm]) hl
  refine ⟨⟨la, lb, l, l', hla, ?_, hlb, hl, hitems, ?_, hl', hitems'⟩, _, rfl,
    (hread "tier" " tier notin ()").2.1 _ _ rfl rfl⟩
  · cases hla
    rfl
  · cases hl
    rfl

end AccessGate.Cluster
