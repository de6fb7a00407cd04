/-
What a failed operation leaves behind. Every failure but one comes before the cluster writes anything, or from
the cluster itself, which then writes nothing. The one that comes after is that the object which the cluster has
just stored cannot be read as one of the kind (`StoredUnreadable`). Main statement: a failed operation leaves the
objects and all watches alone, or this has happened, and then the cluster is as that one write left it
(`failed_untouched_unless_unreadable`).
-/
import AccessGate.Proofs.Client.Delegation
import AccessGate.Proofs.Cluster.Watching

namespace AccessGate.Client

open Cluster (Store Action Target Place Object Change Watch)

variable {c : Client} {call : Call} {k : Kind} {s : Store} {q : Request}

/-- Whether a request is one that stores an object. -/
def Request.storesObject : Request → Bool
  | create _ | update _ | patch .. | updateSub .. | patchSub .. => true
  | get _ | list .. | delete _ | deleteAll .. | watch .. | getSub .. | createSub .. => false

/-- Whether the cluster stores an object for a call that cannot be read as one of the kind. -/
def StoredUnreadable (c : Client) (call : Call) (k : Kind) (s : Store) (q : Request) (ch : Change) (p : Place)
    (o : Object) : Prop :=
  ∃ t a, c.delegated? call k q = some (t, a) ∧
    s.perform call.fresh t a = (.ok (.object o), (s.logged (a.entry t)).write ch p o) ∧ k.ofObject? o = none

theorem Outcome.ofCluster_object (k : Kind) (o : Object) : Outcome.ofCluster k (.ok (.object o)) =
    match k.ofObject? o with
    | some j => .ok (.object j)
    | none => .error .conversion := by
  simp only [ofCluster, Request.typedProduct, Request.typed]
  cases k.ofObject? o <;> rfl

/-- A call that fails although the cluster stored an object for it does so because that cannot be read. -/
theorem error_of_stored {t : Target} {a : Action} {ch : Change} {p : Place} {o : Object} {e : AccessError}
    (hd : c.delegated? call k q = some (t, a))
    (hp : s.perform call.fresh t a = (.ok (.object o), (s.logged (a.entry t)).write ch p o))
    (h : (c.perform call k s q).outcome = .error e) :
    StoredUnreadable c call k s q ch p o ∧ e = .conversion := by
  rw [(perform_delegated hd s).1, hp, Outcome.ofCluster_object] at h
  cases ho : k.ofObject? o with
  | some j => rw [ho] at h; cases h
  | none => rw [ho] at h; cases h; exact ⟨⟨t, a, hd, hp, ho⟩, rfl⟩

/-- A call that gives an object and makes a version is one that stores an object. -/
theorem storesObject_of_version {t : Target} {a : Action} {o : Object} {fresh : Cluster.Fresh}
    (ha : q.action? = some a) (hp : (s.perform fresh t a).1 = .ok (.object o))
    (hv : (s.perform fresh t a).2.version ≠ s.version) : q.storesObject = true := by
  cases q with
  | create _ | update _ | patch _ _ | updateSub _ _ | patchSub _ _ _ => rfl
  | get key => cases ha; exact absurd (Store.logged_version s _) hv
  | getSub sub key =>
    cases ha
    refine absurd ?_ hv
    simp only [Store.perform, Cluster.produce, Store.getSubresource]
    split <;> exact Store.logged_version s _
  | list _ _ | delete _ | deleteAll _ _ | watch _ _ _ | createSub _ _ _ =>
    cases ha
    obtain ⟨y, hy⟩ := Cluster.exists_of_produce_ok hp
    cases hy

/-- A call that fails leaves the objects, their versions and every watch as they were, unless the cluster stored
an object for it that cannot be read as one of the kind. In that case the call was one that stores an object, it
fails for this reason, and the cluster has that one object stored and that one change published. -/
theorem failed_untouched_unless_unreadable (c : Client) (call : Call) (k : Kind) (s : Store) (q : Request)
    {e : AccessError} (h : (c.perform call k s q).outcome = .error e) :
    ((∀ ch p o, ¬ StoredUnreadable c call k s q ch p o) ∧
      s.SameContent (c.perform call k s q).store ∧
      (∀ (n : Nat) (w : Watch), w.take (c.perform call k s q).store n = w.take s n)) ∨
    ∃ ch p o, StoredUnreadable c call k s q ch p o ∧ e = .conversion ∧ q.storesObject = true ∧
      (s.write ch p o).SameContent (c.perform call k s q).store := by
  by_cases hu : ∃ ch p o, StoredUnreadable c call k s q ch p o
  · right
    obtain ⟨ch, p, o, t, a, hd, hp, ho⟩ := hu
    refine ⟨ch, p, o, ⟨t, a, hd, hp, ho⟩, (error_of_stored hd hp h).2, ?_, ?_⟩
    · obtain ⟨_, _, _, _, _, ha⟩ := delegated?_eq_some.1 hd
      refine storesObject_of_version ha (by rw [hp]) ?_
      rw [hp]
      show (s.logged _).version + 1 ≠ s.version
      rw [Store.logged_version]
      omega
    · rw [(perform_delegated hd s).2, hp]
      exact (Store.sameContent_logged s _).write ch p o
  · left
    have hsame : s.SameContent (c.perform call k s q).store := by
      cases hd : c.delegated? call k q with
      | none => rw [perform_undelegated hd s s]; exact ⟨rfl, rfl, rfl⟩
      | some r =>
        obtain ⟨t, a⟩ := r
        rcases (Store.perform_effect s call.fresh t a).nothing_or_wrote_or_removed with hs | ⟨ch, p, o, hp⟩ | hp
        · rw [(perform_delegated hd s).2, hs]
          exact Store.sameContent_logged s _
        · exact absurd ⟨ch, p, o, (error_of_stored hd hp h).1⟩ hu
        · rw [(perform_delegated hd s).1, hp] at h
          cases h
    exact ⟨fun ch p o ho => hu ⟨ch, p, o, ho⟩, hsame, Watch.take_of_events hsame.events⟩

/-- A secret that is not there cannot be patched, and nothing happens. -/
theorem missing_secret_untouched :
    let reply := secretGate.perform (tokenCall .allowed) .secret oneSecret (.patch ⟨"demo", "other"⟩ ⟨.merge, .obj []⟩)
    reply.outcome = .error (.cluster (.notFound "secrets" "other")) ∧ oneSecret.SameContent reply.store := by
  have h : (secretGate.perform (tokenCall .allowed) .secret oneSecret
      (.patch ⟨"demo", "other"⟩ ⟨.merge, .obj []⟩)).outcome = .error (.cluster (.notFound "secrets" "other")) := by
    rfl
  rcases failed_untouched_unless_unreadable _ _ _ _ _ h with ⟨_, hsame, _⟩ | ⟨_, _, _, _, he, _⟩
  · exact ⟨h, hsame⟩
  · cases he

/-- A patch that gives a secret a number for its type, which is a text. -/
def mistypedPatch : Request :=
  .patch ⟨"demo", "creds"⟩ ⟨.merge, .obj [("type", .int 5)]⟩

/-- The patch fails, and yet the secret has changed, with a new version, and a watch learns of it. -/
theorem mistyped_patch_stored :
    let reply := secretGate.perform (tokenCall .allowed) .secret oneSecret mistypedPatch
    let watch : Watch := ⟨.of ⟨"", "v1", "Secret", "secrets"⟩ (some "demo"), [], [], oneSecret.events.length⟩
    oneSecret.Reachable ∧ reply.outcome = .error .conversion ∧
      reply.store.objects ≠ oneSecret.objects ∧ reply.store.version ≠ oneSecret.version ∧
      (watch.drain oneSecret).1.length = 0 ∧ (watch.drain reply.store).1.length = 1 :=
  ⟨.step (.start 8) (.seed ..), rfl, by decide, by decide, by decide, by decide⟩

end AccessGate.Client
