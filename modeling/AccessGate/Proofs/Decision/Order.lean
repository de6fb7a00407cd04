/-
The order in which a caller's accounts are walked. The accounts of a namespace are a set, and the search takes
them in some order; only the namespaces have an order that counts. Main statement: for a reviewer that makes up
its mind about every account, the order in which sets are walked, and that in which accounts were added, has no
influence on what is decided, but for which account of a namespace is the one that is granted
(`decided_in_any_order`).

The proof finds the account that is granted by namespaces: it is one of the first namespace, in the order of the
search, with an account that is allowed, and which namespace that is depends on the sets alone.
-/
import AccessGate.Proofs.Decision.Cancellation
import AccessGate.Proofs.Identity.Filing

namespace AccessGate

/-! ## Reviewers that make up their minds -/

namespace Reviewer

/-- Whether the reviewer allows or denies every account that it is asked about with these attributes, and does
the same whenever it is asked. The reason of a denial may be another each time. -/
def Settled (R : Reviewer) (a : Attributes) : Prop :=
  ∀ sa, (∀ n, R n a (.serviceAccount sa) = some .allowed) ∨ ∀ n, R.Denies a (sa, n)

/-- Whether the reviewer allows an account when it is asked about it first. -/
def allows (R : Reviewer) (a : Attributes) (sa : ServiceAccount) : Bool :=
  R 0 a (.serviceAccount sa) = some .allowed

variable {R : Reviewer} {a : Attributes} {sa : ServiceAccount}

theorem Settled.eq_allowed (h : R.Settled a) (hsa : R.allows a sa = true) (n : Nat) :
    R n a (.serviceAccount sa) = some .allowed := by
  rcases h sa with hallowed | hdenied
  · exact hallowed n
  · obtain ⟨reason, hreason⟩ := hdenied 0
    have hfirst : R 0 a (.serviceAccount sa) = some .allowed := of_decide_eq_true hsa
    rw [hreason] at hfirst
    cases hfirst

theorem Settled.denies (h : R.Settled a) (hsa : R.allows a sa = false) (n : Nat) : R.Denies a (sa, n) := by
  rcases h sa with hallowed | hdenied
  · exact absurd (hallowed 0) (of_decide_eq_false hsa)
  · exact hdenied n

end Reviewer

/-! ## What is granted -/

namespace Decision

variable {R : Reviewer}

/-- Induction on the accounts still to be tried: the first that is allowed is granted. -/
theorem verdict_tryAccounts {a : Attributes} (h : R.Settled a) (otherwise : Nat → Decision) :
    ∀ (l : List ServiceAccount) (n : Nat), (tryAccounts R.world a otherwise n l).verdict =
      (l.find? (R.allows a)).elim (otherwise (n + l.length)).verdict fun sa => .granted (.serviceAccount sa)
  | [], n => rfl
  | sa :: l, n => by
    have ih := verdict_tryAccounts h otherwise l (n + 1)
    rw [tryAccounts, List.find?_cons]
    cases hsa : R.allows a sa with
    | true =>
      simp only [Reviewer.world, h.eq_allowed hsa n, Fate.ofAnswer]
      rfl
    | false =>
      obtain ⟨reason, hreason⟩ := h.denies hsa n
      simp only [Reviewer.world, hreason, Fate.ofAnswer]
      show (tryAccounts R.world a otherwise (n + 1) l).verdict = _
      rw [ih, List.length_cons, show n + 1 + l.length = n + (l.length + 1) by omega]

/-- The review of a token grants no account. -/
theorem verdict_tryToken_ne (w : World) (o : Operation) (token : String) (n : Nat) (sa : ServiceAccount) :
    (tryToken w o token n).verdict ≠ .granted (.serviceAccount sa) := by
  unfold tryToken
  split
  · exact nofun
  · rcases w n o.attributes (.bearer token) with (_ | reason | m) | _ | _ | _ <;> exact nofun

/-- A decision for a caller who is no administrator grants the first account that is allowed, and if there is
none, comes to what the review of the token comes to. -/
theorem verdict_make {o : Operation} (h : R.Settled o.attributes) (names : List String) {i : Identity}
    (hi : i.isAdmin = false) : (make (globalNamespaces names) R.world (some i) o).verdict =
      ((searched names i o.key.ns).find? (R.allows o.attributes)).elim
        (tryToken R.world o i.token (searched names i o.key.ns).length).verdict
        fun sa => .granted (.serviceAccount sa) := by
  have hmake : make (globalNamespaces names) R.world (some i) o =
      tryAccounts R.world o.attributes (tryToken R.world o i.token) 0 (searched names i o.key.ns) := by
    simp [make, hi, candidates_eq]
  rw [hmake, verdict_tryAccounts h, Nat.zero_add]

end Decision

/-! ## Two orders -/

/-- Whether a namespace is the first, in the order of the search, with an account that is allowed. -/
def FirstAllowing (R : Reviewer) (names : List String) (o : Operation) (i : Identity) (ns : String) : Prop :=
  ∃ before after, searchOrder names o.key.ns = before ++ ns :: after ∧
    (∀ x ∈ before, ∀ sa ∈ i.accountsIn x, R.allows o.attributes sa = false) ∧
    ∃ sa ∈ i.accountsIn ns, R.allows o.attributes sa = true

theorem find?_searched {names : List String} {i : Identity} {ns : String} {p : ServiceAccount → Bool}
    {sa : ServiceAccount} : (searched names i ns).find? p = some sa ↔
      i.hasSubject = true ∧ ∃ before x after, searchOrder names ns = before ++ x :: after ∧
        (i.accountsIn x).find? p = some sa ∧ ∀ y ∈ before, (i.accountsIn y).find? p = none := by
  rw [searched_eq]
  split
  · rename_i hs
    rw [List.find?_flatMap, List.findSome?_eq_some_iff]
    simp [hs]
  · rename_i hs
    simp [hs]

namespace Identity.SameSets

variable {i i' : Identity}

theorem hasSubject (h : i.SameSets i') : i'.hasSubject = i.hasSubject := by
  unfold Identity.hasSubject
  rw [h.claims]

theorem searched_perm (h : i.SameSets i') (names : List String) (ns : String) :
    (searched names i' ns).Perm (searched names i ns) := by
  rw [searched_eq, searched_eq, h.hasSubject]
  split
  · exact List.Perm.flatMap_left _ fun x _ => h.accounts x
  · exact .refl _

theorem find?_eq_none (h : i.SameSets i') (ns : String) {p : ServiceAccount → Bool}
    (hnone : (i.accountsIn ns).find? p = none) : (i'.accountsIn ns).find? p = none := by
  apply List.find?_eq_none.2
  intro sa hsa
  exact List.find?_eq_none.1 hnone sa ((h.accounts ns).mem_iff.1 hsa)

/-- What is found in a set walked in one order is matched by something that is found in the other. -/
theorem exists_find? (h : i.SameSets i') {ns : String} {p : ServiceAccount → Bool} {sa : ServiceAccount}
    (hsome : (i.accountsIn ns).find? p = some sa) : ∃ sa', (i'.accountsIn ns).find? p = some sa' := by
  apply Option.isSome_iff_exists.1
  apply List.find?_isSome.2
  have hmem : sa ∈ i.accountsIn ns := List.mem_of_find?_eq_some hsome
  exact ⟨sa, (h.accounts ns).mem_iff.2 hmem, List.find?_some hsome⟩

/-- If an account is found when sets are walked in one order, one of the same namespace is in the other. -/
theorem find?_searched (h : i.SameSets i') {R : Reviewer} {names : List String} {o : Operation} {sa : ServiceAccount}
    (hfound : (searched names i o.key.ns).find? (R.allows o.attributes) = some sa) :
    ∃ sa' ns, (searched names i' o.key.ns).find? (R.allows o.attributes) = some sa' ∧
      FirstAllowing R names o i ns ∧ sa ∈ i.accountsIn ns ∧ sa' ∈ i'.accountsIn ns := by
  obtain ⟨hs, before, ns, after, horder, hsa, hbefore⟩ := AccessGate.find?_searched.1 hfound
  obtain ⟨sa', hsa'⟩ := h.exists_find? hsa
  have hmem : sa ∈ i.accountsIn ns := List.mem_of_find?_eq_some hsa
  refine ⟨sa', ns, ?found, ⟨before, after, horder, ?denied, sa, hmem, List.find?_some hsa⟩, hmem,
    List.mem_of_find?_eq_some hsa'⟩
  case found =>
    apply AccessGate.find?_searched.2
    exact ⟨h.hasSubject.trans hs, before, ns, after, horder, hsa', fun x hx => h.find?_eq_none x (hbefore x hx)⟩
  case denied =>
    intro x hx a ha
    simpa using List.find?_eq_none.1 (hbefore x hx) a ha

end Identity.SameSets

/-- Whether an operation is decided alike for two callers: it is allowed for both or for none, it is refused for
both with the same error, and if an account is granted to the one, then to the other as well, both of the same
namespace: the first, in the order of the search, with an account that is allowed. -/
structure DecidedAlike (R : Reviewer) (names : List String) (o : Operation) (i i' : Identity) : Prop where
  allowed : (∃ g, (Decision.make (globalNamespaces names) R.world (some i) o).verdict = .granted g) ↔
    ∃ g, (Decision.make (globalNamespaces names) R.world (some i') o).verdict = .granted g
  refused : ∀ e, (Decision.make (globalNamespaces names) R.world (some i) o).verdict = .refused e ↔
    (Decision.make (globalNamespaces names) R.world (some i') o).verdict = .refused e
  account : ∀ sa, (Decision.make (globalNamespaces names) R.world (some i) o).verdict = .granted (.serviceAccount sa) →
    ∃ sa' ns, (Decision.make (globalNamespaces names) R.world (some i') o).verdict = .granted (.serviceAccount sa') ∧
      FirstAllowing R names o i ns ∧ sa ∈ i.accountsIn ns ∧ sa' ∈ i'.accountsIn ns

variable {R : Reviewer} {names : List String} {o : Operation} {i i' : Identity}

/-- Verdicts that are equal and grant no account are alike. -/
theorem DecidedAlike.of_eq (heq : (Decision.make (globalNamespaces names) R.world (some i') o).verdict =
      (Decision.make (globalNamespaces names) R.world (some i) o).verdict)
    (hnone : ∀ sa, (Decision.make (globalNamespaces names) R.world (some i) o).verdict ≠ .granted (.serviceAccount sa)) :
    DecidedAlike R names o i i' := by
  refine ⟨?_, ?_, ?_⟩
  · rw [heq]
  · intro e
    rw [heq]
  · intro sa hsa
    exact absurd hsa (hnone sa)

/-- If no account is allowed when sets are walked in one order, none is in the other. -/
theorem Identity.SameSets.find?_searched_eq_none (h : i.SameSets i') {ns : String} {p : ServiceAccount → Bool}
    (hnone : (searched names i ns).find? p = none) : (searched names i' ns).find? p = none := by
  apply List.find?_eq_none.2
  intro sa hsa
  exact List.find?_eq_none.1 hnone sa ((h.searched_perm names ns).mem_iff.1 hsa)

/-- No account is tried for an administrator, so there is no order. -/
theorem Identity.SameSets.decidedAlike_of_admin (h : i.SameSets i') (hi : i.isAdmin = true) :
    DecidedAlike R names o i i' := by
  have hgrants : ∀ j : Identity, j.isAdmin = true →
      (Decision.make (globalNamespaces names) R.world (some j) o).verdict = .granted .admin := by
    intro j hj
    simp [Decision.make, hj]
  apply DecidedAlike.of_eq
  · rw [hgrants i hi, hgrants i' (h.isAdmin.trans hi)]
  · intro sa h
    rw [hgrants i hi] at h
    cases h

theorem Identity.SameSets.decidedAlike (h : i.SameSets i') (hR : R.Settled o.attributes) (names : List String) :
    DecidedAlike R names o i i' := by
  cases hi : i.isAdmin with
  | true => exact h.decidedAlike_of_admin hi
  | false =>
    have hv := Decision.verdict_make hR names hi
    have hv' := Decision.verdict_make hR names (h.isAdmin.trans hi)
    cases hfound : (searched names i o.key.ns).find? (R.allows o.attributes) with
    | none =>
      -- all accounts are denied in both orders, and the token is asked about with the same number
      rw [hfound, Option.elim_none] at hv
      rw [h.find?_searched_eq_none hfound, Option.elim_none, h.token, (h.searched_perm names o.key.ns).length_eq] at hv'
      apply DecidedAlike.of_eq
      · rw [hv, hv']
      · intro sa
        rw [hv]
        exact Decision.verdict_tryToken_ne _ _ _ _ sa
    | some sa =>
      obtain ⟨sa', ns, hfound', hfirst, hsa, hsa'⟩ := h.find?_searched hfound
      rw [hfound, Option.elim_some] at hv
      rw [hfound', Option.elim_some] at hv'
      refine ⟨?_, ?_, ?_⟩
      · rw [hv, hv']
        exact ⟨fun _ => ⟨_, rfl⟩, fun _ => ⟨_, rfl⟩⟩
      · intro e
        rw [hv, hv']
        constructor
        · intro h
          cases h
        · intro h
          cases h
      · intro granted hgranted
        rw [hv] at hgranted
        cases hgranted
        exact ⟨sa', ns, hv', hfirst, hsa, hsa'⟩

/-- A reviewer that allows or denies every account, whenever it is asked, and answers about tokens as it likes,
decides an operation alike for two callers whose sets of accounts are the same but walked in other orders, and
for two that had the same accounts added in other orders, however they came about before. -/
theorem decided_in_any_order (R : Reviewer) (names : List String) (o : Operation) (hR : R.Settled o.attributes) :
    (∀ i i' : Identity, i.SameSets i' → DecidedAlike R names o i i') ∧
    ∀ i : Identity, i.Built → ∀ as as' : List ServiceAccount, (∀ a, a ∈ as ↔ a ∈ as') →
      DecidedAlike R names o (as.foldl Identity.withAccount i) (as'.foldl Identity.withAccount i) := by
  constructor
  · intro i i' h
    exact h.decidedAlike hR names
  · intro i hi as as' hsame
    exact (hi.sameSets_foldl hsame).decidedAlike hR names

/-- A caller with a subject claim and the accounts, added in this order. -/
def callerWith (accounts : List ServiceAccount) : Identity :=
  accounts.foldl Identity.withAccount (({} : Identity).withClaim "sub" "alice")

/-- Both accounts of the namespace would be allowed, and the one that was added first is granted. -/
theorem granted_from_same_namespace :
    let R : Reviewer := fun _ _ _ => some .allowed
    let viewer : ServiceAccount := ⟨"demo", "viewer"⟩
    let editor : ServiceAccount := ⟨"demo", "editor"⟩
    R.Settled sampleOperation.attributes ∧
    (Decision.make (globalNamespaces ["shared"]) R.world (some (callerWith [viewer, editor])) sampleOperation).verdict =
      .granted (.serviceAccount viewer) ∧
    (Decision.make (globalNamespaces ["shared"]) R.world (some (callerWith [editor, viewer])) sampleOperation).verdict =
      .granted (.serviceAccount editor) ∧
    DecidedAlike R ["shared"] sampleOperation (callerWith [viewer, editor]) (callerWith [editor, viewer]) := by
  intro R viewer editor
  have hR : R.Settled sampleOperation.attributes := fun _ => .inl fun _ => rfl
  have hstart : (({} : Identity).withClaim "sub" "alice").Built := .withClaim _ _ (.start (.inl rfl))
  have hsame : ∀ a, a ∈ [viewer, editor] ↔ a ∈ [editor, viewer] := by
    intro a
    simp [or_comm]
  obtain ⟨-, hadded⟩ := decided_in_any_order R ["shared"] sampleOperation hR
  exact ⟨hR, by decide, by decide, hadded _ hstart _ _ hsame⟩

end AccessGate
