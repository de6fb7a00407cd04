/-
The reviews of a decision, whatever becomes of them: answered, waiting or cut short. Main statements: the
subjects that are reviewed are an initial part of those that the search lists (`asks_make`), and the
accounts among them that the reviewer is sent are searched accounts in their order
(`impersonated_sublist`).
-/
import AccessGate.Proofs.Decision.Rules

namespace AccessGate

/-- Those whom a decision may ask about, in order: the accounts that are searched, then the caller if there
is a token. -/
def searchedSubjects (names : List String) (i : Identity) (ns : String) : List Subject :=
  (searched names i ns).map .serviceAccount ++ if i.token = "" then [] else [.bearer i.token]

/-- The account that a subject is. -/
def Subject.account? : Subject → Option ServiceAccount
  | serviceAccount a => some a
  | bearer _ => none

namespace Decision

/-- The accounts that the reviewer is sent in a decision, in order. -/
def impersonated (d : Decision) : List ServiceAccount :=
  (d.reviews.filter Review.wasAsked).filterMap fun r => r.subject.account?

/-- Whether a decision, seen from its n-th review on, asks about these subjects in their order, as far as it
gets, always with these attributes, and what becomes of each review is up to the world. -/
structure Asks (w : World) (a : Attributes) (n : Nat) (subjects : List Subject) (d : Decision) : Prop where
  order : d.reviews.map Review.subject <+: subjects
  fate : ∀ (k : Nat) (r : Review), d.reviews[k]? = some r → r.attributes = a ∧ r.fate = w (n + k) a r.subject

variable {w : World} {a : Attributes} {n : Nat} {s : Subject} {subjects : List Subject}

theorem asks_nothing (verdict : Verdict) : Asks w a n subjects ⟨verdict, []⟩ := by
  refine ⟨List.nil_prefix, ?_⟩
  intro k r hr
  simp at hr

theorem asks_once (verdict : Verdict) : Asks w a n (s :: subjects) ⟨verdict, [⟨s, a, w n a s⟩]⟩ := by
  refine ⟨⟨subjects, rfl⟩, ?_⟩
  intro k r hr
  obtain ⟨rfl, rfl⟩ : k = 0 ∧ r = ⟨s, a, w n a s⟩ := by
    cases k with
    | zero => exact ⟨rfl, by simpa using hr.symm⟩
    | succ k => simp at hr
  exact ⟨rfl, rfl⟩

/-- A review that is put before the others takes the first place. -/
theorem Asks.after {d : Decision} (h : Asks w a (n + 1) subjects d) :
    Asks w a n (s :: subjects) (d.after ⟨s, a, w n a s⟩) := by
  constructor
  · simpa [Decision.after] using h.order
  · intro k r hr
    cases k with
    | zero =>
      obtain rfl : ⟨s, a, w n a s⟩ = r := by simpa [Decision.after] using hr
      exact ⟨rfl, rfl⟩
    | succ k =>
      have hk : d.reviews[k]? = some r := by simpa [Decision.after] using hr
      obtain ⟨ha, hf⟩ := h.fate k r hk
      exact ⟨ha, by rw [hf, show n + 1 + k = n + (k + 1) by omega]⟩

theorem asks_tryToken (w : World) (o : Operation) (token : String) (n : Nat) :
    Asks w o.attributes n (if token = "" then [] else [.bearer token]) (tryToken w o token n) := by
  unfold tryToken
  split
  · exact asks_nothing _
  · exact asks_once _

/-- Induction on the accounts still to be tried: each is asked about first or ends the search. -/
theorem asks_tryAccounts {otherwise : Nat → Decision} (h : ∀ n, Asks w a n subjects (otherwise n)) :
    ∀ (l : List ServiceAccount) (n : Nat),
      Asks w a n (l.map .serviceAccount ++ subjects) (tryAccounts w a otherwise n l)
  | [], n => h n
  | sa :: l, n => by
    have ih := asks_tryAccounts h l (n + 1)
    rw [tryAccounts, List.map_cons, List.cons_append]
    rcases hw : w n a (.serviceAccount sa) with (_ | reason | m) | _ | _ | _
    -- a denial goes on to the next account, everything else ends the search here
    case answered.forbidden =>
      have hafter : Asks w a n (.serviceAccount sa :: (l.map .serviceAccount ++ subjects)) _ := ih.after
      rw [hw] at hafter
      exact hafter
    all_goals
      have hone (verdict : Verdict) :
          Asks w a n (.serviceAccount sa :: (l.map .serviceAccount ++ subjects)) ⟨verdict, _⟩ :=
        asks_once verdict
      rw [hw] at hone
      exact hone _

/-- A decision for a caller who is no administrator asks about the accounts that are searched, in their
order, and then about the caller, and stops somewhere. -/
theorem asks_make (names : List String) (w : World) {i : Identity} (hi : i.isAdmin = false) (o : Operation) :
    Asks w o.attributes 0 (searchedSubjects names i o.key.ns) (make (globalNamespaces names) w (some i) o) := by
  have hmake : make (globalNamespaces names) w (some i) o =
      tryAccounts w o.attributes (tryToken w o i.token) 0 (searched names i o.key.ns) := by
    simp [make, hi, candidates_eq]
  rw [hmake]
  exact asks_tryAccounts (asks_tryToken w o i.token) _ 0

theorem filterMap_account?_searchedSubjects (names : List String) (i : Identity) (ns : String) :
    (searchedSubjects names i ns).filterMap Subject.account? = searched names i ns := by
  have haccounts : ((searched names i ns).map Subject.serviceAccount).filterMap Subject.account? =
      searched names i ns := by
    rw [List.filterMap_map]
    exact List.filterMap_some
  have htoken : (if i.token = "" then [] else [Subject.bearer i.token]).filterMap Subject.account? = [] := by
    split <;> rfl
  rw [searchedSubjects, List.filterMap_append, haccounts, htoken, List.append_nil]

/-- The reviewer is sent accounts that are searched, each as often as it is searched and in that order. -/
theorem impersonated_sublist (names : List String) (w : World) {i : Identity} (hi : i.isAdmin = false)
    (o : Operation) :
    (make (globalNamespaces names) w (some i) o).impersonated.Sublist (searched names i o.key.ns) := by
  obtain ⟨horder, -⟩ := asks_make names w hi o
  have hasked : ((make (globalNamespaces names) w (some i) o).reviews.filter Review.wasAsked).Sublist _ :=
    List.filter_sublist
  have hsub := ((hasked.map Review.subject).trans horder.sublist).filterMap Subject.account?
  rw [filterMap_account?_searchedSubjects, List.filterMap_map] at hsub
  exact hsub

end Decision

end AccessGate
