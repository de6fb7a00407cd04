/-
The decision as rules. `Decided` says what a decision comes to and which questions the reviewer
receives, without saying how a search is carried out: the accounts that are searched are listed
first, and the search is cut at the first answer that does not deny. Main statement: a decision whose
call is never cancelled is exactly the one that the rules give (`make_eq_iff_decided`).
-/
import AccessGate.Decision
import Mathlib.Tactic

namespace AccessGate

/-! ## Reviewers -/

/-- What becomes of a question in a call that is not cancelled. -/
def Fate.ofAnswer : Option Answer → Fate
  | some x => .answered x
  | none => .waiting

namespace Reviewer

/-- The reviews of a call that is never cancelled. -/
def world (R : Reviewer) : World :=
  fun n a s => .ofAnswer (R n a s)

/-- Whether the reviewer denies an account that it is asked about with the given number. -/
def Denies (R : Reviewer) (a : Attributes) (x : ServiceAccount × Nat) : Prop :=
  ∃ reason, R x.2 a (.serviceAccount x.1) = some (.forbidden reason)

/-- The review of an account that is asked about with the given number. -/
def review (R : Reviewer) (a : Attributes) (x : ServiceAccount × Nat) : Review :=
  ⟨.serviceAccount x.1, a, .ofAnswer (R x.2 a (.serviceAccount x.1))⟩

end Reviewer

/-! ## The order of the search -/

/-- The namespaces that are searched for an object: its own, then the global ones; none empty, and each
where it comes first. -/
def searchOrder (names : List String) (ns : String) : List String :=
  ((ns :: names).filter (· ≠ "")).eraseDups

/-- The accounts that are searched: those filed under each namespace in the order of the caller's set, and none for
a caller without a subject claim. -/
def searched (names : List String) (i : Identity) (ns : String) : List ServiceAccount :=
  if i.claims.has "sub" then (searchOrder names ns).flatMap fun x => (i.accounts.get? x).getD [] else []

theorem searched_eq (names : List String) (i : Identity) (ns : String) :
    searched names i ns = if i.hasSubject then (searchOrder names ns).flatMap i.accountsIn else [] :=
  rfl

theorem foldl_keepFirst (l : List String) : ∀ seen : List String, seen.eraseDups = seen →
    l.foldl (fun seen ns => if seen.contains ns then seen else seen ++ [ns]) seen = (seen ++ l).eraseDups := by
  induction l with
  | nil => intro seen h; simpa using h.symm
  | cons x l ih =>
    intro seen h
    rw [List.foldl_cons]
    split
    · rename_i hx
      rw [ih seen h, List.eraseDups_append, List.eraseDups_append]
      congr 2
      simp_all [List.removeAll]
    · rename_i hx
      rw [ih, List.append_assoc, List.singleton_append]
      rw [List.eraseDups_append, h]
      simp_all [List.removeAll, List.eraseDups_cons]

theorem globalNamespaces_eq (names : List String) :
    globalNamespaces names = (names.filter (· ≠ "")).eraseDups :=
  foldl_keepFirst _ [] rfl

theorem filter_eraseDups (p : String → Bool) :
    ∀ l : List String, l.eraseDups.filter p = (l.filter p).eraseDups
  | [] => rfl
  | x :: l => by
    rw [List.eraseDups_cons, List.filter_cons, List.filter_cons, filter_eraseDups p (l.filter fun b => !b == x)]
    rw [List.filter_filter]
    split
    · rw [List.eraseDups_cons, List.filter_filter]
      simp only [Bool.and_comm]
    · -- what the filter drops anyway need not be taken for a repetition
      rename_i hx
      congr 1
      apply List.filter_congr
      intro b _
      by_cases hb : b = x
      · subst hb; simp [hx]
      · simp [hb]
termination_by l => l.length
decreasing_by exact Nat.lt_succ_of_le (List.length_filter_le _ _)

theorem nodup_eraseDups : ∀ l : List String, l.eraseDups.Nodup
  | [] => List.nodup_nil
  | x :: l => by
    rw [List.eraseDups_cons]
    apply List.nodup_cons.2
    constructor
    · intro hx
      have hx : x ∈ l.filter fun b => !b == x := List.mem_eraseDups.1 hx
      simp at hx
    · exact nodup_eraseDups _
termination_by l => l.length
decreasing_by exact Nat.lt_succ_of_le (List.length_filter_le _ _)

theorem eraseDups_of_nodup : ∀ {l : List String}, l.Nodup → l.eraseDups = l
  | [], _ => rfl
  | x :: l, h => by
    obtain ⟨hx, hl⟩ := List.nodup_cons.1 h
    have hkept : (l.filter fun b => !b == x) = l := by
      rw [List.filter_eq_self]
      intro b hb
      simpa using fun hbx : b = x => hx (hbx ▸ hb)
    rw [List.eraseDups_cons, hkept, eraseDups_of_nodup hl]

/-- An engine searches its own namespaces in the stated order. -/
theorem candidateNamespaces_eq (names : List String) (ns : String) :
    Decision.candidateNamespaces (globalNamespaces names) ns = searchOrder names ns := by
  unfold Decision.candidateNamespaces searchOrder
  rw [globalNamespaces_eq, filter_eraseDups, List.filter_filter]
  by_cases h : ns = ""
  · simp [h]
  · rw [if_neg h, List.filter_cons, if_pos (by simpa using h), List.eraseDups_cons, List.filter_filter]
    simp [Bool.beq_eq_decide_eq]

theorem candidates_eq (names : List String) (i : Identity) (ns : String) :
    Decision.candidates (globalNamespaces names) i ns = searched names i ns := by
  unfold Decision.candidates
  rw [candidateNamespaces_eq, searched_eq]

/-! ## The rules -/

/-- The grant that an allowed review gives. -/
def Subject.grant : Subject → Grant
  | .serviceAccount a => .serviceAccount a
  | .bearer _ => .caller

/-- What a failed review for a subject is told as. -/
def Subject.failure (message : String) : Subject → String
  | .serviceAccount _ => "service_account access review failed: " ++ message
  | .bearer _ => "caller access review failed: " ++ message

/-- The attributes that every question of a decision has. -/
def Operation.asked (o : Operation) : Attributes where
  verb := o.verb.name
  group := o.descriptor.group
  version := o.descriptor.version
  resource := o.descriptor.resource
  subresource := o.descriptor.subresource
  ns := o.key.ns
  name := o.key.name

/-- The verdict of a decision that ends with this answer to a review for a subject. -/
def Operation.verdict (o : Operation) (subject : Subject) : Option Answer → Verdict
  | some .allowed => .granted subject.grant
  | some (.forbidden reason) => .refused (.forbidden o.verb.name o.descriptor.text o.key.name reason)
  | some (.failed m) => .refused (.internal (subject.failure m))
  | none => .pending

/-- The rules of a decision on an operation: the caller, and the decision with the questions that the
reviewer receives. `names` are the global namespaces as they are configured. -/
inductive Decided (R : Reviewer) (names : List String) (o : Operation) : Option Identity → Decision → Prop
  | nobody : Decided R names o none ⟨.refused .notAllowed, []⟩
  | admin {i : Identity} (admin : i.isAdmin = true) : Decided R names o (some i) ⟨.granted .admin, []⟩
  /-- The first account that is not denied ends the search. -/
  | account {i : Identity} {tried rest : List ServiceAccount} {sa : ServiceAccount}
      (ordinary : i.isAdmin = false) (order : searched names i o.key.ns = tried ++ sa :: rest)
      (denied : ∀ x ∈ tried.zipIdx, R.Denies o.asked x) (last : ¬ R.Denies o.asked (sa, tried.length)) :
      Decided R names o (some i)
        ⟨o.verdict (.serviceAccount sa) (R tried.length o.asked (.serviceAccount sa)),
          (tried ++ [sa]).zipIdx.map (R.review o.asked)⟩
  | noToken {i : Identity} (ordinary : i.isAdmin = false)
      (denied : ∀ x ∈ (searched names i o.key.ns).zipIdx, R.Denies o.asked x) (token : i.token = "") :
      Decided R names o (some i)
        ⟨.refused (.forbidden o.verb.name o.descriptor.text o.key.name "no bearer token to review"),
          (searched names i o.key.ns).zipIdx.map (R.review o.asked)⟩
  /-- When all accounts are denied, the caller's own token is asked about, once. -/
  | token {i : Identity} (ordinary : i.isAdmin = false)
      (denied : ∀ x ∈ (searched names i o.key.ns).zipIdx, R.Denies o.asked x) (token : i.token ≠ "") :
      Decided R names o (some i)
        (let answer := R (searched names i o.key.ns).length o.asked (.bearer i.token)
        ⟨o.verdict (.bearer i.token) answer,
          (searched names i o.key.ns).zipIdx.map (R.review o.asked) ++
            [⟨.bearer i.token, o.asked, .ofAnswer answer⟩]⟩)

/-! ## The search keeps to the rules -/

section Search

variable {R : Reviewer} {a : Attributes} {otherwise : Nat → Decision}

/-- Accounts that are all denied are passed over. -/
theorem tryAccounts_append (rest : List ServiceAccount) :
    ∀ (tried : List ServiceAccount) (n : Nat), (∀ x ∈ tried.zipIdx n, R.Denies a x) →
      Decision.tryAccounts R.world a otherwise n (tried ++ rest) =
        ⟨(Decision.tryAccounts R.world a otherwise (n + tried.length) rest).verdict,
          (tried.zipIdx n).map (R.review a) ++
            (Decision.tryAccounts R.world a otherwise (n + tried.length) rest).reviews⟩
  | [], n, _ => rfl
  | sa :: tried, n, h => by
    rw [List.zipIdx_cons, List.forall_mem_cons] at h
    obtain ⟨⟨reason, hr⟩, h⟩ := h
    rw [List.cons_append, Decision.tryAccounts, List.length_cons, List.zipIdx_cons, List.map_cons]
    simp only [Reviewer.world, hr, Fate.ofAnswer]
    rw [tryAccounts_append rest tried (n + 1) h, show n + 1 + tried.length = n + (tried.length + 1) by omega]
    simp [Decision.after, Reviewer.review, hr, Fate.ofAnswer]

theorem Operation.attributes_eq (o : Operation) : o.attributes = o.asked :=
  rfl

/-- The first account that is not denied ends the search with its verdict. -/
theorem tryAccounts_stop {o : Operation} {sa : ServiceAccount} (rest : List ServiceAccount) {n : Nat}
    (h : ¬ R.Denies o.asked (sa, n)) :
    Decision.tryAccounts R.world o.asked otherwise n (sa :: rest) =
      ⟨o.verdict (.serviceAccount sa) (R n o.asked (.serviceAccount sa)),
        [R.review o.asked (sa, n)]⟩ := by
  rw [Decision.tryAccounts]
  simp only [Reviewer.world, Reviewer.review]
  rcases hx : R n o.asked (.serviceAccount sa) with _ | _ | reason | m
  · rfl
  · rfl
  · exact absurd ⟨reason, hx⟩ h
  · rfl

theorem tryToken_eq {o : Operation} {token : String} (h : token ≠ "") (n : Nat) :
    Decision.tryToken R.world o token n =
      ⟨o.verdict (.bearer token) (R n o.asked (.bearer token)),
        [⟨.bearer token, o.asked, .ofAnswer (R n o.asked (.bearer token))⟩]⟩ := by
  unfold Decision.tryToken
  rw [if_neg h]
  simp only [Reviewer.world, Operation.attributes_eq]
  rcases R n o.asked (.bearer token) with _ | _ | reason | m <;> rfl

/-- Either every account of a list is denied, or there is a first one that is not. -/
theorem denied_or_first (R : Reviewer) (a : Attributes) :
    ∀ (l : List ServiceAccount) (n : Nat), (∀ x ∈ l.zipIdx n, R.Denies a x) ∨
      ∃ tried sa rest, l = tried ++ sa :: rest ∧ (∀ x ∈ tried.zipIdx n, R.Denies a x) ∧
        ¬ R.Denies a (sa, n + tried.length)
  | [], n => .inl (by simp)
  | sa :: l, n => by
    by_cases h : R.Denies a (sa, n)
    · rcases denied_or_first R a l (n + 1) with hl | ⟨tried, sa', rest, rfl, hd, hs⟩
      · exact .inl (by rw [List.zipIdx_cons, List.forall_mem_cons]; exact ⟨h, hl⟩)
      · refine .inr ⟨sa :: tried, sa', rest, rfl, ?_, ?_⟩
        · rw [List.zipIdx_cons, List.forall_mem_cons]; exact ⟨h, hd⟩
        · rwa [List.length_cons, show n + (tried.length + 1) = n + 1 + tried.length by omega]
    · exact .inr ⟨[], sa, l, rfl, by simp, by simpa using h⟩

end Search

/-- What the rules give is what is decided. -/
theorem make_of_decided {R : Reviewer} {names : List String} {o : Operation} {caller : Option Identity}
    {d : Decision} (h : Decided R names o caller d) :
    Decision.make (globalNamespaces names) R.world caller o = d := by
  cases h with
  | nobody => rfl
  | admin admin => simp [Decision.make, admin]
  | account ordinary order denied last =>
    simp only [Decision.make, ordinary, candidates_eq, order, Operation.attributes_eq]
    rw [if_neg (by simp), tryAccounts_append _ _ _ denied, Nat.zero_add, tryAccounts_stop _ last]
    simp [List.zipIdx_append]
  | noToken ordinary denied token =>
    simp only [Decision.make, ordinary, candidates_eq, Operation.attributes_eq]
    rw [if_neg (by simp), ← List.append_nil (searched ..), tryAccounts_append _ _ _ denied]
    simp [Decision.tryAccounts, Decision.tryToken, Operation.forbidden, token]
  | token ordinary denied token =>
    simp only [Decision.make, ordinary, candidates_eq, Operation.attributes_eq]
    rw [if_neg (by simp), ← List.append_nil (searched ..), tryAccounts_append _ _ _ denied]
    simp [Decision.tryAccounts, tryToken_eq token]

/-- The rules leave no case open. -/
theorem exists_decided (R : Reviewer) (names : List String) (o : Operation) (caller : Option Identity) :
    ∃ d, Decided R names o caller d := by
  rcases caller with _ | i
  · exact ⟨_, .nobody⟩
  rcases hi : i.isAdmin with _ | _
  · rcases denied_or_first R o.asked (searched names i o.key.ns) 0 with h | ⟨tried, sa, rest, hs, hd, hn⟩
    · by_cases ht : i.token = ""
      · exact ⟨_, .noToken hi h ht⟩
      · exact ⟨_, .token hi h ht⟩
    · exact ⟨_, .account hi hs hd (by rwa [Nat.zero_add] at hn)⟩
  · exact ⟨_, .admin hi⟩

/-- A decision whose call is never cancelled is the one that the rules give, with the same questions in
the same order, for every reviewer, every caller and every order of the caller's accounts. -/
theorem make_eq_iff_decided (R : Reviewer) (names : List String) (o : Operation) (caller : Option Identity)
    (d : Decision) :
    Decision.make (globalNamespaces names) R.world caller o = d ↔ Decided R names o caller d := by
  constructor
  · intro h
    obtain ⟨d', h'⟩ := exists_decided R names o caller
    rw [← h, make_of_decided h']
    exact h'
  · exact make_of_decided

end AccessGate
