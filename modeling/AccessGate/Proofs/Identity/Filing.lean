/-
How callers come about, and where their accounts are filed. Main statements: however a caller came about,
no account is filed twice under one namespace (`Built.nodup`), and a caller that was put together account
by account has each of them under the account's own namespace (`Constructed.filed`). A document may file
an account under any namespace.
-/
import AccessGate.Identity.Document
import AccessGate.Proofs.Assoc
import AccessGate.Proofs.Outcome
import Mathlib.Data.List.Nodup

namespace AccessGate.Identity

/-! ## Callers -/

/-- Whether two callers are the same but for the order in which the accounts of a namespace are walked. -/
structure SameSets (i i' : Identity) : Prop where
  isAdmin : i'.isAdmin = i.isAdmin
  claims : i'.claims = i.claims
  token : i'.token = i.token
  accounts : ∀ ns, (i'.accountsIn ns).Perm (i.accountsIn ns)

/-- The callers that grow out of others: claims, accounts and a token are added, and sets are walked in
any order. -/
inductive Grown (start : Identity → Prop) : Identity → Prop
  | start {i : Identity} : start i → Grown start i
  | withClaim {i : Identity} (name value : String) : Grown start i → Grown start (i.withClaim name value)
  | withAccount {i : Identity} (a : ServiceAccount) : Grown start i → Grown start (i.withAccount a)
  | withToken {i : Identity} (token : String) : Grown start i → Grown start (i.withToken token)
  | reordered {i i' : Identity} : i.SameSets i' → Grown start i → Grown start i'

/-- Whether a caller was put together from nothing, or as an administrator. -/
def Constructed (i : Identity) : Prop :=
  Grown (fun i => i = {} ∨ i = admin) i

/-- Whether a caller came about in any way: put together, or read from a document and added to. -/
def Built (i : Identity) : Prop :=
  Grown (fun i => i = {} ∨ i = admin ∨ ∃ j, ofJson? j = some i) i

/-- Whether what is filed under each namespace is a set: no account is there twice. -/
def HoldsSets (i : Identity) : Prop :=
  ∀ b ∈ i.accounts, b.2.Nodup

instance (i : Identity) : Decidable i.HoldsSets :=
  inferInstanceAs (Decidable (∀ b ∈ i.accounts, b.2.Nodup))

/-- Whether the accounts under the name of a namespace are accounts of that namespace. -/
def Filed (i : Identity) : Prop :=
  ∀ ns, ns ≠ "" → ∀ a ∈ i.accountsIn ns, a.ns = ns

theorem Constructed.built {i : Identity} (h : i.Constructed) : i.Built := by
  induction h with
  | start h => exact .start (h.imp id .inl)
  | withClaim name value _ ih => exact ih.withClaim name value
  | withAccount a _ ih => exact ih.withAccount a
  | withToken token _ ih => exact ih.withToken token
  | reordered hs _ ih => exact ih.reordered hs

/-- What holds at the start and is kept by every addition holds of every caller that grows from there. -/
theorem Grown.invariant {start P : Identity → Prop} (hstart : ∀ i, start i → P i)
    (hsets : ∀ i i', (∀ ns, (i'.accountsIn ns).Perm (i.accountsIn ns)) → P i → P i')
    (haccount : ∀ i a, P i → P (i.withAccount a)) {i : Identity} (h : Grown start i) : P i := by
  induction h with
  | start h => exact hstart _ h
  | withClaim name value _ ih =>
    apply hsets _ _ ?_ ih
    exact fun _ => .refl _
  | withAccount a _ ih => exact haccount _ a ih
  | withToken token _ ih =>
    apply hsets _ _ ?_ ih
    exact fun _ => .refl _
  | reordered hs _ ih => exact hsets _ _ hs.accounts ih

/-! ## Filing an account -/

theorem mem_addAccount {set : List ServiceAccount} {a b : ServiceAccount} :
    b ∈ addAccount set a ↔ b = a ∨ b ∈ set := by
  unfold addAccount
  split
  · rename_i ha
    have ha : a ∈ set := by simpa using ha
    constructor
    · exact .inr
    · rintro (rfl | hb)
      · exact ha
      · exact hb
  · rw [List.mem_append, List.mem_singleton, or_comm]

theorem nodup_addAccount {set : List ServiceAccount} (h : set.Nodup) (a : ServiceAccount) :
    (addAccount set a).Nodup := by
  unfold addAccount
  split
  · exact h
  · rename_i ha
    have ha : a ∉ set := by simpa using ha
    exact List.nodup_append.2 ⟨h, List.nodup_singleton a, by rintro b hb c hc rfl; simp_all⟩

theorem accountsIn_withAccount (i : Identity) (a : ServiceAccount) (ns : String) :
    (i.withAccount a).accountsIn ns =
      if ns = a.ns then addAccount (i.accountsIn ns) a else i.accountsIn ns := by
  unfold accountsIn withAccount
  split
  · rename_i hns
    rw [hns, Assoc.get?_insert_self]
    rfl
  · rename_i hns
    rw [Assoc.get?_insert_of_ne hns]

/-- Accounts that are added one after the other are filed under their own namespaces, beside what was there. -/
theorem mem_accountsIn_foldl {a : ServiceAccount} {ns : String} :
    ∀ {as : List ServiceAccount} {i : Identity},
      a ∈ (as.foldl withAccount i).accountsIn ns ↔ a ∈ i.accountsIn ns ∨ a ∈ as ∧ a.ns = ns
  | [], i => by simp
  | b :: as, i => by
    rw [List.foldl_cons, mem_accountsIn_foldl, accountsIn_withAccount]
    split
    · rename_i hns
      rw [mem_addAccount, List.mem_cons]
      constructor
      · rintro ((rfl | ha) | ⟨ha, hown⟩)
        · exact .inr ⟨.inl rfl, hns.symm⟩
        · exact .inl ha
        · exact .inr ⟨.inr ha, hown⟩
      · rintro (ha | ⟨rfl | ha, hown⟩)
        · exact .inl (.inr ha)
        · exact .inl (.inl rfl)
        · exact .inr ⟨ha, hown⟩
    · rename_i hns
      rw [List.mem_cons]
      constructor
      · rintro (ha | ⟨ha, hown⟩)
        · exact .inl ha
        · exact .inr ⟨.inr ha, hown⟩
      · rintro (ha | ⟨rfl | ha, hown⟩)
        · exact .inl ha
        · exact absurd hown.symm hns
        · exact .inr ⟨ha, hown⟩

/-- Adding accounts changes the accounts and nothing else. -/
theorem foldl_withAccount_eq : ∀ (as : List ServiceAccount) (i : Identity),
    as.foldl withAccount i = { i with accounts := (as.foldl withAccount i).accounts }
  | [], _ => rfl
  | a :: as, i => by
    rw [List.foldl_cons, foldl_withAccount_eq as (i.withAccount a)]
    rfl

/-! ## What documents file -/

theorem nodup_of_accountSetOfJson? {j : Json} {set : List ServiceAccount} (h : accountSetOfJson? j = some set) :
    set.Nodup := by
  have fold : ∀ (as set : List ServiceAccount), set.Nodup → (as.foldl addAccount set).Nodup := by
    intro as
    induction as with
    | nil => exact fun _ h => h
    | cons a as ih => exact fun set h => ih _ (nodup_addAccount h a)
  obtain ⟨xs, -, hset⟩ := Option.bind_eq_some_iff.1 h
  obtain ⟨as, -, rfl⟩ := Option.map_eq_some_iff.1 hset
  exact fold as [] List.nodup_nil

/-- A caller that is read holds sets, whatever the lists in the document repeat. -/
theorem holdsSets_of_ofJson? {j : Json} {i : Identity} (h : ofJson? j = some i) : i.HoldsSets := by
  unfold ofJson? at h
  simp only [Option.bind_eq_bind, Option.bind_eq_some_iff] at h
  obtain ⟨fields, -, isAdmin, -, claims, -, accounts, haccounts, ⟨⟩⟩ := h
  unfold Json.withDefault at haccounts
  split at haccounts
  · cases haccounts
    exact fun _ hb => nomatch hb
  · intro b hb
    obtain ⟨members, -, hmembers⟩ := Option.bind_eq_some_iff.1 haccounts
    obtain ⟨m, -, hm⟩ := mem_of_mapM_eq_some hmembers b hb
    obtain ⟨set, hset, rfl⟩ := Option.map_eq_some_iff.1 hm
    exact nodup_of_accountSetOfJson? hset

theorem HoldsSets.nodup {i : Identity} (h : i.HoldsSets) (ns : String) : (i.accountsIn ns).Nodup := by
  unfold accountsIn
  cases hget : i.accounts.get? ns with
  | none => exact List.nodup_nil
  | some set => exact h _ (Assoc.mem_of_get? hget)

/-! ## However a caller came about -/

/-- Accounts under one namespace are a set. -/
theorem Built.nodup {i : Identity} (h : i.Built) : ∀ ns, (i.accountsIn ns).Nodup := by
  apply Grown.invariant (P := fun i => ∀ ns, (i.accountsIn ns).Nodup) ?start ?sets ?account h
  case start =>
    rintro i (rfl | rfl | ⟨j, hj⟩) ns
    · exact List.nodup_nil
    · exact List.nodup_nil
    · exact (holdsSets_of_ofJson? hj).nodup ns
  case sets =>
    intro i i' hperm hi ns
    exact (hperm ns).nodup_iff.2 (hi ns)
  case account =>
    intro i a hi ns
    rw [accountsIn_withAccount]
    split
    · exact nodup_addAccount (hi ns) a
    · exact hi ns

theorem Built.foldl_withAccount : ∀ (as : List ServiceAccount) {i : Identity}, i.Built → (as.foldl withAccount i).Built
  | [], _, h => h
  | a :: as, _, h => foldl_withAccount as (h.withAccount a)

/-- Callers that had the same accounts added, in whatever order and however often, differ at most in the order
in which sets are walked. -/
theorem Built.sameSets_foldl {i : Identity} (h : i.Built) {as as' : List ServiceAccount}
    (hsame : ∀ a, a ∈ as ↔ a ∈ as') : (as.foldl withAccount i).SameSets (as'.foldl withAccount i) := by
  have hnodup : ∀ as : List ServiceAccount, ∀ ns, ((as.foldl withAccount i).accountsIn ns).Nodup :=
    fun as => (h.foldl_withAccount as).nodup
  refine ⟨?admin, ?claims, ?token, ?accounts⟩
  case accounts =>
    intro ns
    apply (List.perm_ext_iff_of_nodup (hnodup as' ns) (hnodup as ns)).2
    intro a
    rw [mem_accountsIn_foldl, mem_accountsIn_foldl, hsame]
  all_goals
    rw [foldl_withAccount_eq as', foldl_withAccount_eq as]

/-- An account is added under its own namespace. -/
theorem Constructed.filed {i : Identity} (h : i.Constructed) : i.Filed := by
  apply Grown.invariant (P := Filed) ?start ?sets ?account h
  case start =>
    rintro i (rfl | rfl) ns - a ha <;> cases ha
  case sets =>
    intro i i' hperm hi ns hns a ha
    exact hi ns hns a ((hperm ns).mem_iff.1 ha)
  case account =>
    intro i a hi ns hns b hb
    rw [accountsIn_withAccount] at hb
    split at hb
    · rename_i hown
      rcases mem_addAccount.1 hb with rfl | hb
      · exact hown.symm
      · exact hi ns hns b hb
    · exact hi ns hns b hb

end AccessGate.Identity
