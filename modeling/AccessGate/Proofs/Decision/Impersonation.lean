/-
Whose accounts a decision impersonates. The search goes by the namespaces that accounts are filed under,
and an account is impersonated in its own. Main statement: every decision for a caller keeps to accounts of
the searched namespaces, and to each of them once, exactly if the caller's accounts are filed under their
own namespaces; a caller that was put together account by account has them so, and one that was read from a
document need not (`confined_iff_filed`).
-/
import AccessGate.Proofs.Decision.Cancellation
import AccessGate.Proofs.Decision.Reviews
import AccessGate.Proofs.Identity.Filing

namespace AccessGate

/-! ## What is searched -/

theorem mem_searchOrder {names : List String} {ns x : String} :
    x ∈ searchOrder names ns ↔ x ≠ "" ∧ (x = ns ∨ x ∈ names) := by
  unfold searchOrder
  rw [List.mem_eraseDups, List.mem_filter, List.mem_cons, and_comm]
  simp

theorem mem_searched {names : List String} {i : Identity} {ns : String} {a : ServiceAccount} :
    a ∈ searched names i ns ↔ i.hasSubject = true ∧ ∃ x ∈ searchOrder names ns, a ∈ i.accountsIn x := by
  rw [searched_eq]
  split
  · rename_i hs
    simp [hs]
  · rename_i hs
    simp [hs]

/-- Accounts that are filed under their own namespaces are found under one of them only. -/
theorem nodup_searched {i : Identity} (hset : ∀ ns, (i.accountsIn ns).Nodup) (hf : i.Filed)
    (names : List String) (ns : String) : (searched names i ns).Nodup := by
  rw [searched_eq]
  split
  · apply List.nodup_flatMap.2
    constructor
    · intro x _
      exact hset x
    · have hne : (searchOrder names ns).Pairwise (· ≠ ·) := nodup_eraseDups _
      apply hne.imp_of_mem
      intro x y hx hy hxy a hax hay
      have hx := hf x (mem_searchOrder.1 hx).1 a hax
      have hy := hf y (mem_searchOrder.1 hy).1 a hay
      -- an account that is found under both would be of both
      exact hxy (hx.symm.trans hy)
  · exact List.nodup_nil

/-! ## What is impersonated -/

namespace Decision

/-- Whether the accounts that a decision impersonates belong to the namespace of the object or to a global
one, and none is impersonated twice. -/
structure Confined (names : List String) (ns : String) (d : Decision) : Prop where
  searched : ∀ a ∈ d.impersonated, a.ns ≠ "" ∧ (a.ns = ns ∨ a.ns ∈ names)
  once : d.impersonated.Nodup

theorem impersonated_of_admin (names : List String) (w : World) {i : Identity} (hi : i.isAdmin = true)
    (o : Operation) : (make (globalNamespaces names) w (some i) o).impersonated = [] := by
  simp [make, hi, impersonated]

/-- An account that is impersonated is filed under a namespace that is searched. -/
theorem filed_of_mem_impersonated {names : List String} {w : World} {i : Identity} {o : Operation}
    {a : ServiceAccount} (ha : a ∈ (make (globalNamespaces names) w (some i) o).impersonated) :
    i.hasSubject = true ∧ ∃ ns, ns ≠ "" ∧ (ns = o.key.ns ∨ ns ∈ names) ∧ a ∈ i.accountsIn ns := by
  cases hi : i.isAdmin with
  | true =>
    rw [impersonated_of_admin names w hi] at ha
    cases ha
  | false =>
    obtain ⟨hs, ns, hns, hmem⟩ := mem_searched.1 ((impersonated_sublist names w hi o).subset ha)
    obtain ⟨hne, hwhere⟩ := mem_searchOrder.1 hns
    exact ⟨hs, ns, hne, hwhere, hmem⟩

/-- When all accounts are denied, the reviewer is sent all that are searched. -/
theorem mem_impersonated_of_denied {names : List String} {R : Reviewer} {i : Identity} {o : Operation}
    (hi : i.isAdmin = false) (hd : ∀ x ∈ (AccessGate.searched names i o.key.ns).zipIdx, R.Denies o.attributes x)
    {a : ServiceAccount} (ha : a ∈ AccessGate.searched names i o.key.ns) :
    a ∈ (make (globalNamespaces names) R.world (some i) o).impersonated := by
  have hmake : make (globalNamespaces names) R.world (some i) o =
      tryAccounts R.world o.attributes (tryToken R.world o i.token) 0
        (AccessGate.searched names i o.key.ns ++ []) := by
    simp [make, hi, candidates_eq]
  obtain ⟨k, hk⟩ := List.getElem?_of_mem ha
  have hx : (a, k) ∈ (AccessGate.searched names i o.key.ns).zipIdx := List.mem_zipIdx_iff_getElem?.2 hk
  obtain ⟨reason, hreason⟩ := hd _ hx
  have hreview : R.review o.attributes (a, k) ∈ (make (globalNamespaces names) R.world (some i) o).reviews := by
    rw [hmake, tryAccounts_append [] _ 0 hd]
    exact List.mem_append_left _ (List.mem_map_of_mem hx)
  have hasked : (R.review o.attributes (a, k)).wasAsked = true := by
    simp [Reviewer.review, Review.wasAsked, hreason, Fate.ofAnswer]
  exact List.mem_filterMap.2 ⟨_, List.mem_filter.2 ⟨hreview, hasked⟩, rfl⟩

/-- Filing accounts under their own namespaces keeps every decision to the namespaces that are searched. -/
theorem confined_of_filed {i : Identity} (hb : i.Built) (hf : i.Filed) (names : List String) (w : World)
    (o : Operation) : Confined names o.key.ns (make (globalNamespaces names) w (some i) o) := by
  constructor
  · intro a ha
    obtain ⟨-, ns, hne, hwhere, hmem⟩ := filed_of_mem_impersonated ha
    obtain rfl := hf ns hne a hmem
    exact ⟨hne, hwhere⟩
  · cases hi : i.isAdmin with
    | true =>
      rw [impersonated_of_admin names w hi]
      exact List.nodup_nil
    | false => exact (impersonated_sublist names w hi o).nodup (nodup_searched hb.nodup hf names o.key.ns)

/-- An account that is filed elsewhere is impersonated for an object of the namespace that it is filed
under, once all accounts there are denied. -/
theorem not_confined {i : Identity} (hi : i.isAdmin = false) (hs : i.hasSubject = true) {o : Operation}
    (hne : o.key.ns ≠ "") {a : ServiceAccount} (ha : a ∈ i.accountsIn o.key.ns) (hother : a.ns ≠ o.key.ns) :
    ∃ w, ¬ Confined [] o.key.ns (make (globalNamespaces []) w (some i) o) := by
  -- a reviewer that denies everything, so that the search gets to the account
  let R : Reviewer := fun _ _ _ => some (.forbidden "")
  refine ⟨R.world, ?_⟩
  intro hc
  have hsearched : a ∈ AccessGate.searched [] i o.key.ns :=
    mem_searched.2 ⟨hs, o.key.ns, mem_searchOrder.2 ⟨hne, .inl rfl⟩, ha⟩
  have hdenied : ∀ x ∈ (AccessGate.searched [] i o.key.ns).zipIdx, R.Denies o.attributes x :=
    fun _ _ => ⟨"", rfl⟩
  have himp := mem_impersonated_of_denied hi hdenied hsearched
  rcases (hc.searched a himp).2 with h | h
  · exact hother h
  · cases h

/-- Whoever comes about is impersonated for, in any decision and with any reviewer, cancelled or not, only
as accounts that are filed under the object's own namespace or a global one. These belong to the namespace
that they are filed under, and none comes twice, in all decisions for a caller exactly if the caller's
accounts are filed so, unless nothing is searched for the caller anyway; and they are filed so if the caller
was put together and not read. -/
theorem confined_iff_filed {i : Identity} (h : i.Built) :
    (i.Constructed → ∀ names w o, Confined names o.key.ns (make (globalNamespaces names) w (some i) o)) ∧
    ((∀ names w o, Confined names o.key.ns (make (globalNamespaces names) w (some i) o)) ↔
      i.isAdmin = true ∨ i.hasSubject = false ∨ i.Filed) ∧
    ∀ names w o, ∀ a ∈ (make (globalNamespaces names) w (some i) o).impersonated,
      ∃ ns, ns ≠ "" ∧ (ns = o.key.ns ∨ ns ∈ names) ∧ a ∈ i.accountsIn ns := by
  refine ⟨?constructed, ⟨?only, ?of⟩, ?filed⟩
  case constructed =>
    intro hc names w o
    exact confined_of_filed h hc.filed names w o
  case only =>
    intro hall
    by_contra hnot
    push Not at hnot
    obtain ⟨hi, hs, hf⟩ := hnot
    have hi : i.isAdmin = false := by simpa using hi
    have hs : i.hasSubject = true := by simpa using hs
    unfold Identity.Filed at hf
    push Not at hf
    obtain ⟨ns, hne, a, ha, hother⟩ := hf
    -- an object of the namespace that the account is misfiled under
    let o : Operation := ⟨.get, ⟨"", "", "", "", ""⟩, ⟨ns, ""⟩⟩
    obtain ⟨w, hw⟩ := not_confined (o := o) hi hs hne ha hother
    exact hw (hall [] w o)
  case of =>
    rintro (hi | hs | hf) names w o
    · have hnone := impersonated_of_admin names w hi o
      exact ⟨by simp [hnone], by simp [hnone]⟩
    · have hnone : (make (globalNamespaces names) w (some i) o).impersonated = [] := by
        apply List.eq_nil_iff_forall_not_mem.2
        intro a ha
        obtain ⟨hs', -⟩ := filed_of_mem_impersonated ha
        rw [hs] at hs'
        cases hs'
      exact ⟨by simp [hnone], by simp [hnone]⟩
    · exact confined_of_filed h hf names w o
  case filed =>
    intro names w o a ha
    exact (filed_of_mem_impersonated ha).2

/-- A caller that was put together, with an account of the object's namespace and one elsewhere. -/
def caller : Identity :=
  ((({} : Identity).withClaim "sub" "alice").withAccount ⟨"demo", "viewer"⟩).withAccount ⟨"kube-system", "root"⟩

/-- Only the account of the object's namespace is impersonated. -/
theorem confined_to_object_namespace :
    caller.Built ∧ caller.Constructed ∧
    Confined ["shared"] "demo" (make (globalNamespaces ["shared"]) sampleReviewer.world (some caller) sampleOperation) ∧
    (make (globalNamespaces ["shared"]) sampleReviewer.world (some caller) sampleOperation).impersonated =
      [⟨"demo", "viewer"⟩] := by
  have hc : caller.Constructed := .withAccount _ (.withAccount _ (.withClaim _ _ (.start (.inl rfl))))
  have h := confined_iff_filed hc.built
  exact ⟨hc.built, hc, h.1 hc ["shared"] sampleReviewer.world sampleOperation, by decide⟩

/-- A document that files an account of one namespace under two others. -/
def misfiling : Json :=
  .obj [("claims", .obj [("sub", .str "alice")]),
    ("service_accounts_by_namespace", .obj
      [("demo", .arr [.obj [("name", .str "root"), ("namespace", .str "kube-system")]]),
        ("shared", .arr [.obj [("name", .str "root"), ("namespace", .str "kube-system")]])])]

/-- The account is impersonated for an object of neither its own nor a global namespace, and twice. -/
theorem misfiled_account_impersonated_twice :
    let R : Reviewer := fun _ _ _ => some (.forbidden "no rule")
    ∃ i, Identity.ofJson? misfiling = some i ∧ i.Built ∧
      (make (globalNamespaces ["shared"]) R.world (some i) sampleOperation).impersonated =
        [⟨"kube-system", "root"⟩, ⟨"kube-system", "root"⟩] ∧
      ¬ Confined ["shared"] sampleOperation.key.ns
        (make (globalNamespaces ["shared"]) R.world (some i) sampleOperation) := by
  intro R
  let root : ServiceAccount := ⟨"kube-system", "root"⟩
  let i : Identity := { claims := [("sub", "alice")], accounts := [("demo", [root]), ("shared", [root])] }
  have hread : Identity.ofJson? misfiling = some i := by decide
  have htwice : (make (globalNamespaces ["shared"]) R.world (some i) sampleOperation).impersonated = [root, root] := by
    decide
  refine ⟨i, hread, .start (.inr (.inr ⟨_, hread⟩)), htwice, ?_⟩
  intro hc
  have honce := hc.once
  rw [htwice] at honce
  exact absurd honce (by decide)

end Decision

end AccessGate
