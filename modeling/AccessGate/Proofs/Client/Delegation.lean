/-
When an operation reaches the cluster. `delegated?` is what the cluster is asked to do on behalf of a
call, if anything; it depends on the descriptor, the decision and the request, and not on the cluster.
Main statements: an operation that is denied asks the cluster nothing and leaves no trace
(`denied_untouched`), and one that asks it something for a caller who is no administrator was allowed
in a review of that very operation (`reviewed_of_delegated`).
-/
import AccessGate.Client.Basic

namespace AccessGate

/-! ## What a grant rests on -/

namespace Decision

/-- Whether the reviewer allowed an operation with these attributes in a decision. -/
def Allowed (d : Decision) (a : Attributes) : Prop :=
  ∃ r ∈ d.reviews, r.fate = .answered .allowed ∧ r.attributes = a

theorem allowed_after {d : Decision} {a : Attributes} (r : Review) (h : d.Allowed a) : (d.after r).Allowed a := by
  obtain ⟨r', hr', h⟩ := h
  exact ⟨r', List.mem_cons_of_mem _ hr', h⟩

theorem tryToken_allowed {w : World} {o : Operation} {token : String} {n : Nat} {g : Grant}
    (h : (tryToken w o token n).verdict = .granted g) : (tryToken w o token n).Allowed o.attributes := by
  by_cases ht : token = ""
  · simp [tryToken, ht] at h
  · unfold tryToken at h ⊢
    rw [if_neg ht] at h ⊢
    rcases hw : w n o.attributes (.bearer token) with (_ | reason | m) | _ | _ | _
    all_goals simp only [hw] at h ⊢
    · exact ⟨_, List.mem_singleton_self _, rfl, rfl⟩
    all_goals cases h

/-- Induction on the accounts still to be tried: a search that grants ends with a review that allows. -/
theorem tryAccounts_allowed {w : World} {a : Attributes} {otherwise : Nat → Decision} {g : Grant}
    (ho : ∀ n, (otherwise n).verdict = .granted g → (otherwise n).Allowed a) :
    ∀ (l : List ServiceAccount) (n : Nat), (tryAccounts w a otherwise n l).verdict = .granted g →
      (tryAccounts w a otherwise n l).Allowed a
  | [], n, h => ho n h
  | sa :: l, n, h => by
    unfold tryAccounts at h ⊢
    rcases hw : w n a (.serviceAccount sa) with (_ | reason | m) | _ | _ | _
    all_goals simp only [hw] at h ⊢
    · exact ⟨_, List.mem_singleton_self _, rfl, rfl⟩
    · exact allowed_after _ (tryAccounts_allowed ho l (n + 1) h)
    all_goals cases h

/-- A caller who is no administrator is granted an operation only if a review of it was allowed. -/
theorem make_allowed {globals : List String} {w : World} {caller : Option Identity} {o : Operation} {g : Grant}
    (hc : ∀ i, caller = some i → i.isAdmin = false) (h : (make globals w caller o).verdict = .granted g) :
    (make globals w caller o).Allowed o.attributes := by
  rcases caller with _ | i
  · cases h
  · simp only [make, hc i rfl, Bool.false_eq_true, if_false] at h ⊢
    exact tryAccounts_allowed (fun n hn => tryToken_allowed hn) _ 0 h

end Decision

/-! ## Denials -/

/-- Whether a failure says that an operation is not let through to the cluster. -/
def AccessError.isDenial : AccessError → Bool
  | notAllowed | forbidden .. | internal _ | cancelled | unregisteredType => true
  | cluster _ | conversion => false

namespace Client

open Cluster (Store Action Target)

/-- Whether an operation was denied, or still waits for a review. -/
def Outcome.isDenied : Outcome → Bool
  | ok _ => false
  | error e => e.isDenial
  | pending => true

/-! ## Delegation -/

/-- What the cluster is asked to do for a call, and where: nothing, unless the type is registered, the
operation is granted, and the object that is given can be written as the cluster's. -/
def delegated? (c : Client) (call : Call) (k : Kind) (q : Request) : Option (Target × Action) :=
  match c.descriptor? k q with
  | none => none
  | some d =>
    match (c.authorize call (operationOf d q)).verdict with
    | .granted _ => q.action?.map fun a => (target d q, a)
    | .refused _ | .pending => none

/-- What a call comes to with what the cluster gives. -/
def Outcome.ofCluster (k : Kind) : Except Cluster.Error Cluster.Product → Outcome
  | .error e => error (.cluster e)
  | .ok p =>
    match Request.typedProduct k p with
    | .ok p => ok p
    | .error e => error e

variable {c : Client} {call : Call} {k : Kind} {s : Store} {q : Request} {t : Target} {a : Action}

theorem delegated?_eq_some : c.delegated? call k q = some (t, a) ↔
    ∃ d g, c.descriptor? k q = some d ∧ (c.authorize call (operationOf d q)).verdict = .granted g ∧
      t = target d q ∧ q.action? = some a := by
  unfold delegated?
  constructor
  · intro h
    cases hd : c.descriptor? k q with
    | none => rw [hd] at h; cases h
    | some d =>
      simp only [hd] at h
      cases hv : (c.authorize call (operationOf d q)).verdict with
      | granted g =>
        simp only [hv] at h
        obtain ⟨a', ha, hta⟩ := Option.map_eq_some_iff.1 h
        cases hta
        exact ⟨d, g, rfl, hv, rfl, ha⟩
      | refused e => simp only [hv] at h; cases h
      | pending => simp only [hv] at h; cases h
  · rintro ⟨d, g, hd, hv, rfl, ha⟩
    simp only [hd, hv, ha, Option.map_some]

/-- A reply has the decision that it was gated by, if the type is registered. -/
theorem perform_decision (c : Client) (call : Call) (k : Kind) (s : Store) (q : Request) :
    (c.perform call k s q).decision = (c.descriptor? k q).map fun d => c.authorize call (operationOf d q) := by
  unfold perform
  cases hd : c.descriptor? k q with
  | none => rfl
  | some d =>
    simp only [Option.map_some]
    split
    · rfl
    · rfl
    · split <;> rfl

/-- What an operation gives, as what a call comes to. -/
def Outcome.ofExcept : Except AccessError Product → Outcome
  | .ok p => ok p
  | .error e => error e

/-- A request that is let through comes to what it does to the cluster, whatever it was let through on. -/
theorem perform_of_granted {d : Descriptor} {g : Grant} (hd : c.descriptor? k q = some d)
    (hg : (c.authorize call (operationOf d q)).verdict = .granted g) (s : Store) :
    c.perform call k s q = ⟨.ofExcept (q.run k call.fresh s (target d q)).1, c.authorize call (operationOf d q),
      (q.run k call.fresh s (target d q)).2⟩ := by
  unfold perform
  simp only [hd, hg]
  rcases q.run k call.fresh s (target d q) with ⟨_ | p, s'⟩ <;> rfl

theorem perform_of_unregistered (hd : c.descriptor? k q = none) (s : Store) :
    c.perform call k s q = ⟨.error .unregisteredType, none, s⟩ := by
  unfold perform
  simp only [hd]

/-- A call that asks the cluster something comes to what the cluster makes of it. -/
theorem perform_delegated (h : c.delegated? call k q = some (t, a)) (s : Store) :
    (c.perform call k s q).outcome = .ofCluster k (s.perform call.fresh t a).1 ∧
    (c.perform call k s q).store = (s.perform call.fresh t a).2 := by
  obtain ⟨d, g, hd, hv, rfl, ha⟩ := delegated?_eq_some.1 h
  rw [perform_of_granted hd hv]
  simp only [Request.run, ha]
  rcases s.perform call.fresh (target d q) a with ⟨_ | p, s'⟩
  · exact ⟨rfl, rfl⟩
  · refine ⟨?_, rfl⟩
    simp only [Outcome.ofCluster]
    cases Request.typedProduct k p <;> rfl

/-- A call that asks the cluster nothing gives nothing back, whatever the cluster, and leaves it as it was. -/
theorem exists_perform_undelegated (h : c.delegated? call k q = none) :
    ∃ outcome decision, (∀ x, outcome ≠ .ok x) ∧ ∀ s, c.perform call k s q = ⟨outcome, decision, s⟩ := by
  unfold delegated? at h
  cases hd : c.descriptor? k q with
  | none => exact ⟨.error .unregisteredType, none, nofun, perform_of_unregistered hd⟩
  | some d =>
    simp only [hd] at h
    cases hv : (c.authorize call (operationOf d q)).verdict with
    | granted g =>
      simp only [hv, Option.map_eq_none_iff] at h
      refine ⟨.error .conversion, c.authorize call (operationOf d q), nofun, fun s => ?_⟩
      rw [perform_of_granted hd hv]
      simp only [Request.run, h]
      rfl
    | refused e =>
      refine ⟨.error e, c.authorize call (operationOf d q), nofun, fun s => ?_⟩
      unfold perform
      simp only [hd, hv]
    | pending =>
      refine ⟨.pending, c.authorize call (operationOf d q), nofun, fun s => ?_⟩
      unfold perform
      simp only [hd, hv]

/-- A call that asks the cluster nothing comes to the same on every cluster, and leaves each as it was. -/
theorem perform_undelegated (h : c.delegated? call k q = none) (s s' : Store) :
    c.perform call k s' q = { c.perform call k s q with store := s' } := by
  obtain ⟨_, _, -, hperform⟩ := exists_perform_undelegated h
  rw [hperform, hperform]

theorem not_ok_of_undelegated (h : c.delegated? call k q = none) (x : Product) :
    (c.perform call k s q).outcome ≠ .ok x := by
  obtain ⟨_, _, hnone, hperform⟩ := exists_perform_undelegated h
  rw [hperform]
  exact hnone x

/-- A call that gives something back asked the cluster something, and gives that back as typed. -/
theorem delegated_of_ok {x : Product} (h : (c.perform call k s q).outcome = .ok x) :
    ∃ t a y, c.delegated? call k q = some (t, a) ∧ (s.perform call.fresh t a).1 = .ok y ∧
      Request.typedProduct k y = .ok x := by
  cases hd : c.delegated? call k q with
  | none => exact absurd h (not_ok_of_undelegated hd x)
  | some r =>
    obtain ⟨t, a⟩ := r
    rw [(perform_delegated hd s).1] at h
    unfold Outcome.ofCluster at h
    split at h
    · cases h
    · rename_i y hy
      split at h
      · rename_i hx
        cases h
        exact ⟨t, a, y, rfl, hy, hx⟩
      · cases h

/-! ## Denied operations -/

theorem typed_error {o : Cluster.Object} {e : AccessError} (h : Request.typed k o = .error e) :
    e = .conversion := by
  unfold Request.typed at h
  split at h <;> cases h
  rfl

theorem mapM_typed_error {e : AccessError} :
    ∀ {l : List Cluster.Object}, l.mapM (Request.typed k) = .error e → e = .conversion
  | [], h => by cases h
  | o :: l, h => by
    rw [List.mapM_cons] at h
    cases ho : Request.typed k o with
    | error e' => rw [ho] at h; cases h; exact typed_error ho
    | ok j =>
      cases hl : l.mapM (Request.typed k) with
      | error e' => rw [ho, hl] at h; cases h; exact mapM_typed_error hl
      | ok js => rw [ho, hl] at h; cases h

theorem typedProduct_error {p : Cluster.Product} {e : AccessError} (h : Request.typedProduct k p = .error e) :
    e = .conversion := by
  cases p with
  | object o =>
    cases ho : Request.typed k o with
    | ok j => rw [Request.typedProduct, ho] at h; cases h
    | error e' => rw [Request.typedProduct, ho] at h; cases h; exact typed_error ho
  | listing l =>
    cases hl : l.items.mapM (Request.typed k) with
    | ok js => rw [Request.typedProduct, hl] at h; cases h
    | error e' => rw [Request.typedProduct, hl] at h; cases h; exact mapM_typed_error hl
  | done => cases h
  | stream w => cases h
  | document j => cases h

/-- What the cluster gives is never read as a denial. -/
theorem isDenied_ofCluster (r : Except Cluster.Error Cluster.Product) :
    (Outcome.ofCluster k r).isDenied = false := by
  rcases r with e | p
  · rfl
  · simp only [Outcome.ofCluster]
    cases hp : Request.typedProduct k p with
    | ok p => rfl
    | error e => rw [typedProduct_error hp]; rfl

theorem delegated?_of_isDenied (h : (c.perform call k s q).outcome.isDenied = true) :
    c.delegated? call k q = none := by
  cases hd : c.delegated? call k q with
  | none => rfl
  | some r =>
    rw [(perform_delegated hd s).1, isDenied_ofCluster] at h
    cases h

/-- An operation that is denied, or whose review is never answered, asks the cluster nothing: the cluster
stays as it was, every open stream goes on as it would have, and the reply would have been the same on
any other cluster. Whatever does ask the cluster something is not denied, and comes to what the cluster
makes of it. -/
theorem denied_untouched (c : Client) (call : Call) (k : Kind) (s : Store) (q : Request) :
    ((c.perform call k s q).outcome.isDenied = true →
      c.delegated? call k q = none ∧
      (c.perform call k s q).store = s ∧
      (∀ (w : Stream) (cancelled : Bool) (n : Nat),
        w.take (c.perform call k s q).store cancelled n = w.take s cancelled n) ∧
      ∀ s', c.perform call k s' q = { c.perform call k s q with store := s' }) ∧
    ∀ t a, c.delegated? call k q = some (t, a) →
      (c.perform call k s q).outcome.isDenied = false ∧
      (c.perform call k s q).outcome = .ofCluster k (s.perform call.fresh t a).1 ∧
      (c.perform call k s q).store = (s.perform call.fresh t a).2 := by
  refine ⟨fun h => ?_, fun t a h => ?_⟩
  · have hnone := delegated?_of_isDenied h
    have hstore : (c.perform call k s q).store = s := congrArg Reply.store (perform_undelegated hnone s s)
    exact ⟨hnone, hstore, fun w cancelled n => by rw [hstore], perform_undelegated hnone s⟩
  · obtain ⟨houtcome, hstore⟩ := perform_delegated h s
    exact ⟨by rw [houtcome]; exact isDenied_ofCluster _, houtcome, hstore⟩

/-- A gate in front of secrets. -/
def secretGate : Client :=
  { resolver := ⟨[(.single "Secret", ⟨"", "v1", "Secret", false⟩)], [(("", "Secret"), "secrets")]⟩
    skipAuthorization := false
    globalNamespaces := [] }

/-- A cluster with one secret. -/
def oneSecret : Store :=
  ((Store.withLogCapacity 8).seed ⟨"u1", ""⟩ ⟨"", "v1", "Secret", "secrets"⟩
    { metadata := { name := some "creds", ns := some "demo" } }).2

/-- A call with a token whose review gets the given answer. -/
def tokenCall (answer : Answer) : Call :=
  ⟨some { token := "alice-token" }, fun _ _ _ => .answered answer, ⟨"u2", "x"⟩⟩

/-- A patch that asks for the secret to be in another namespace. -/
def moveSecret : Request :=
  .patch ⟨"demo", "creds"⟩ ⟨.merge, .obj [("metadata", .obj [("namespace", .str "other")])]⟩

/-- The patch is refused and leaves the secret as it was. -/
theorem refused_patch_untouched :
    let reply := secretGate.perform (tokenCall (.forbidden "no rule")) .secret oneSecret moveSecret
    reply.outcome.isDenied = true ∧ reply.store = oneSecret := by
  have h : (secretGate.perform (tokenCall (.forbidden "no rule")) .secret oneSecret moveSecret).outcome.isDenied =
      true := by decide
  exact ⟨h, ((denied_untouched _ _ _ _ _).1 h).2.1⟩

/-- What the cluster is asked to do for a caller who is no administrator was allowed in a review of that
operation. -/
theorem reviewed_of_delegated (hskip : c.skipAuthorization = false)
    (hc : ∀ i, call.caller = some i → i.isAdmin = false) (h : c.delegated? call k q = some (t, a)) (s : Store) :
    ∃ d decision, c.descriptor? k q = some d ∧ t = target d q ∧ q.action? = some a ∧
      (c.perform call k s q).decision = some decision ∧ decision.Allowed (operationOf d q).attributes := by
  obtain ⟨d, g, hd, hv, ht, ha⟩ := delegated?_eq_some.1 h
  refine ⟨d, c.authorize call (operationOf d q), hd, ht, ha, ?_, ?_⟩
  · rw [perform_decision, hd, Option.map_some]
  · unfold authorize at hv ⊢
    rw [if_neg (by simp [hskip])] at hv ⊢
    exact Decision.make_allowed hc hv

end Client

end AccessGate
