/-
The decision is only a gate. What a request does once it is let through depends on the type that it is about, on the
cluster, and for a creation on its chance values; neither the caller nor the ground on which the request was let
through has any part in it (`perform_of_granted`). Main statement: any two ways of letting a request through give the
same result and leave the same cluster, in one call and through whole runs; so a gate that checks nothing and one
that checks administrators stay in step, and neither asks for a review (`transparent_once_granted`).
-/
import Mathlib.Data.List.Forall2
import AccessGate.Proofs.Client.Delegation

namespace AccessGate.Client

open Cluster (Store Fresh Target)

/-! ## Runs of calls -/

/-- A request on objects of a kind, in the call that makes it. -/
structure Asked where
  call : Call
  kind : Kind
  request : Request

def reply (c : Client) (s : Store) (x : Asked) : Reply :=
  c.perform x.call x.kind s x.request

/-- The replies to requests that are made in turn, each to the cluster as the one before it left it. -/
def run (c : Client) : Store → List Asked → List Reply
  | _, [] => []
  | s, x :: xs => c.reply s x :: c.run (c.reply s x).store xs

/-- Whether two calls ask for the same. Who makes them, and what becomes of their reviews, may differ. The chance
values are those of a creation; other requests draw none. -/
structure Asked.SameRequest (x x' : Asked) : Prop where
  kind : x'.kind = x.kind
  request : x'.request = x.request
  chance : ∀ typed, x.request = .create typed → x'.call.fresh = x.call.fresh

/-- Whether two calls come to the same and leave the same cluster: its objects and their versions, what it published,
and its log. -/
structure Reply.SameEffect (r r' : Reply) : Prop where
  outcome : r'.outcome = r.outcome
  store : r'.store = r.store

/-- Whether nothing was reviewed for a reply. -/
def Reply.Unreviewed (r : Reply) : Prop :=
  ∀ d, r.decision = some d → d.reviews = []

/-! ## Ways of being let through -/

/-- Whether a gate lets a request through, and on which ground. -/
def Grants (c : Client) (x : Asked) (g : Grant) : Prop :=
  ∃ d, c.descriptor? x.kind x.request = some d ∧ (c.authorize x.call (operationOf d x.request)).verdict = .granted g

/-- Whether a gate lets a request through if its type is registered. -/
def Passes (c : Client) (x : Asked) : Prop :=
  ∀ d, c.descriptor? x.kind x.request = some d → ∃ g, c.Grants x g

/-- Whether it is an administrator who makes a call. -/
def Asked.ByAdmin (x : Asked) : Prop :=
  ∃ i, x.call.caller = some i ∧ i.isAdmin = true

variable {c c' : Client} {call : Call} {q : Request} {g : Grant} {x x' : Asked}

/-- A gate that checks nothing lets everyone through, known or not, and asks for no review. -/
theorem authorize_unchecked (h : c.skipAuthorization = true) (call : Call) (o : Operation) :
    c.authorize call o = ⟨.granted .unchecked, []⟩ := by
  unfold authorize
  rw [if_pos h]

/-- A gate that checks lets an administrator through, and asks for no review. -/
theorem authorize_admin (hc : c.skipAuthorization = false) {i : Identity} (hi : call.caller = some i)
    (h : i.isAdmin = true) (o : Operation) : c.authorize call o = ⟨.granted .admin, []⟩ := by
  unfold authorize Decision.make
  rw [if_neg (by simp [hc]), hi]
  simp only [h, if_true]

theorem passes_of_authorize (h : ∀ o, c.authorize x.call o = ⟨.granted g, []⟩) : c.Passes x := by
  intro d hd
  refine ⟨g, d, hd, ?_⟩
  rw [h]

/-! ## One call -/

/-- Only a creation uses its chance values. -/
theorem Request.run_fresh (h : ∀ typed, q ≠ .create typed) (k : Kind) (fresh fresh' : Fresh) (s : Store) (t : Target) :
    q.run k fresh' s t = q.run k fresh s t := by
  unfold run
  cases q with
  | create typed => exact absurd rfl (h typed)
  -- a given object that cannot be read is not handed to the cluster
  | update typed =>
    simp only [action?]
    cases Kind.toObject? typed <;> rfl
  | updateSub sub typed =>
    simp only [action?]
    cases Kind.toObject? typed <;> rfl
  | _ => rfl

theorem Asked.SameRequest.run_eq (h : x.SameRequest x') (s : Store) (t : Target) :
    x'.request.run x'.kind x'.call.fresh s t = x.request.run x.kind x.call.fresh s t := by
  rw [h.kind, h.request]
  by_cases hcreate : ∃ typed, x.request = .create typed
  · obtain ⟨typed, htyped⟩ := hcreate
    rw [h.chance typed htyped]
  · exact Request.run_fresh (fun typed htyped => hcreate ⟨typed, htyped⟩) _ _ _ _ _

/-- Gates with the same types resolve the same request alike. -/
theorem Asked.SameRequest.descriptor?_eq (h : x.SameRequest x') (hr : c'.resolver = c.resolver) :
    c'.descriptor? x'.kind x'.request = c.descriptor? x.kind x.request := by
  unfold descriptor?
  rw [h.kind, h.request, hr]

theorem sameEffect_of_grants {g' : Grant} (hr : c'.resolver = c.resolver) (hx : x.SameRequest x') (h : c.Grants x g)
    (h' : c'.Grants x' g') (s : Store) : (c.reply s x).SameEffect (c'.reply s x') := by
  obtain ⟨d, hd, hg⟩ := h
  obtain ⟨d', hd', hg'⟩ := h'
  have hdd : d' = d := by
    rw [hx.descriptor?_eq hr, hd] at hd'
    exact (Option.some.inj hd').symm
  subst hdd
  have hrun : x'.request.run x'.kind x'.call.fresh s (target d' x'.request) =
      x.request.run x.kind x.call.fresh s (target d' x.request) := by
    rw [hx.run_eq, hx.request]
  unfold reply
  rw [perform_of_granted hd hg, perform_of_granted hd' hg', hrun]
  exact ⟨rfl, rfl⟩

/-- Requests that pass two gates come to the same; so do those about a type that neither has. -/
theorem sameEffect_of_passes (hr : c'.resolver = c.resolver) (hx : x.SameRequest x') (h : c.Passes x)
    (h' : c'.Passes x') (s : Store) : (c.reply s x).SameEffect (c'.reply s x') := by
  have hdd := hx.descriptor?_eq hr
  cases hd : c.descriptor? x.kind x.request with
  | none =>
    -- the type is registered at neither gate, and the cluster is not asked
    rw [hd] at hdd
    unfold reply
    rw [perform_of_unregistered hd, perform_of_unregistered hdd]
    exact ⟨rfl, rfl⟩
  | some d =>
    rw [hd] at hdd
    obtain ⟨g, hg⟩ := h d hd
    obtain ⟨g', hg'⟩ := h' d hdd
    exact sameEffect_of_grants hr hx hg hg' s

/-! ## Whole runs -/

/-- Two gates that let everything through stay in step: by induction on the calls, each of which leaves the same
cluster to the next. -/
theorem sameEffect_run (hr : c'.resolver = c.resolver) {xs xs' : List Asked}
    (hxs : List.Forall₂ Asked.SameRequest xs xs') :
    (∀ x ∈ xs, c.Passes x) → (∀ x ∈ xs', c'.Passes x) →
      ∀ s, List.Forall₂ Reply.SameEffect (c.run s xs) (c'.run s xs') := by
  induction hxs with
  | nil => exact fun _ _ _ => .nil
  | @cons x x' xs xs' hx _ ih =>
    intro h h' s
    obtain ⟨hhead, htail⟩ := List.forall_mem_cons.1 h
    obtain ⟨hhead', htail'⟩ := List.forall_mem_cons.1 h'
    have hsame := sameEffect_of_passes hr hx hhead hhead' s
    refine .cons hsame ?_
    rw [hsame.store]
    exact ih htail htail' _

theorem unreviewed_reply (h : ∀ o, (c.authorize x.call o).reviews = []) (s : Store) : (c.reply s x).Unreviewed := by
  intro decision hdecision
  unfold reply at hdecision
  rw [perform_decision] at hdecision
  obtain ⟨d, -, rfl⟩ := Option.map_eq_some_iff.1 hdecision
  exact h _

theorem unreviewed_run (xs : List Asked) (h : ∀ x ∈ xs, ∀ o, (c.authorize x.call o).reviews = []) :
    ∀ s, ∀ r ∈ c.run s xs, r.Unreviewed := by
  induction xs with
  | nil => exact fun _ _ hr => nomatch hr
  | cons x xs ih =>
    obtain ⟨hhead, htail⟩ := List.forall_mem_cons.1 h
    intro s
    exact List.forall_mem_cons.2 ⟨unreviewed_reply hhead s, ih htail _⟩

/-- Two gates in front of the same types. Whatever a request is let through on, at either, it gives the same and
leaves the same cluster, in any state. So do whole runs in which everything passes, call by call. At a gate that
checks nothing, for callers known or unknown, and at one that checks, for administrators, everything passes, and
neither asks for a review. -/
theorem transparent_once_granted (hr : c'.resolver = c.resolver) :
    (∀ x x' g g' s, x.SameRequest x' → c.Grants x g → c'.Grants x' g' → (c.reply s x).SameEffect (c'.reply s x')) ∧
    (∀ xs xs' s, List.Forall₂ Asked.SameRequest xs xs' → (∀ x ∈ xs, c.Passes x) → (∀ x ∈ xs', c'.Passes x) →
      List.Forall₂ Reply.SameEffect (c.run s xs) (c'.run s xs')) ∧
    (c.skipAuthorization = true → c'.skipAuthorization = false →
      ∀ xs xs' s, List.Forall₂ Asked.SameRequest xs xs' → (∀ x ∈ xs', x.ByAdmin) →
        List.Forall₂ Reply.SameEffect (c.run s xs) (c'.run s xs') ∧
        (∀ r ∈ c.run s xs, r.Unreviewed) ∧ ∀ r ∈ c'.run s xs', r.Unreviewed) := by
  refine ⟨fun x x' g g' s hx h h' => sameEffect_of_grants hr hx h h' s,
    fun xs xs' s hxs h h' => sameEffect_run hr hxs h h' s, ?_⟩
  intro hskip hcheck xs xs' s hxs hadmin
  have hunchecked : ∀ x ∈ xs, ∀ o, c.authorize x.call o = ⟨.granted .unchecked, []⟩ :=
    fun x _ o => authorize_unchecked hskip x.call o
  have hadmins : ∀ x ∈ xs', ∀ o, c'.authorize x.call o = ⟨.granted .admin, []⟩ := by
    intro x hx o
    obtain ⟨i, hi, h⟩ := hadmin x hx
    exact authorize_admin hcheck hi h o
  refine ⟨?_, ?_, ?_⟩
  · exact sameEffect_run hr hxs (fun x hx => passes_of_authorize (hunchecked x hx))
      (fun x hx => passes_of_authorize (hadmins x hx)) s
  · exact unreviewed_run xs (fun x hx o => by rw [hunchecked x hx o]) s
  · exact unreviewed_run xs' (fun x hx o => by rw [hadmins x hx o]) s

/-- The gate in front of secrets with its checks off. -/
def openGate : Client :=
  { secretGate with skipAuthorization := true }

/-- The patch of a secret, asked for by nobody. -/
def anonymousMove : Asked :=
  ⟨⟨none, fun _ _ _ => .waiting, ⟨"u2", "x"⟩⟩, .secret, moveSecret⟩

/-- The patch, asked for with a token that is allowed. -/
def tokenMove : Asked :=
  ⟨tokenCall .allowed, .secret, moveSecret⟩

/-- The patch, asked for by an administrator. -/
def adminMove : Asked :=
  ⟨⟨some .admin, fun _ _ _ => .waiting, ⟨"u3", "y"⟩⟩, .secret, moveSecret⟩

/-- Nobody at the open gate and a caller who was reviewed at the other patch the secret alike; and patched twice,
it is the same at the open gate and, by an administrator, at the other, with no review. -/
theorem moved_alike_on_any_ground :
    (openGate.Grants anonymousMove .unchecked ∧ secretGate.Grants tokenMove .caller ∧
      (openGate.reply oneSecret anonymousMove).SameEffect (secretGate.reply oneSecret tokenMove)) ∧
    List.Forall₂ Reply.SameEffect (openGate.run oneSecret [anonymousMove, anonymousMove])
      (secretGate.run oneSecret [adminMove, adminMove]) ∧
    ∀ r ∈ secretGate.run oneSecret [adminMove, adminMove], r.Unreviewed := by
  have hmove : anonymousMove.SameRequest tokenMove := ⟨rfl, rfl, fun _ h => by cases h⟩
  have hmoves : anonymousMove.SameRequest adminMove := ⟨rfl, rfl, fun _ h => by cases h⟩
  have hopen : openGate.Grants anonymousMove .unchecked := ⟨_, rfl, rfl⟩
  have htoken : secretGate.Grants tokenMove .caller := ⟨_, rfl, rfl⟩
  have hresolver : secretGate.resolver = openGate.resolver := rfl
  obtain ⟨hcall, -, hrun⟩ := transparent_once_granted hresolver
  obtain ⟨heffect, -, hunreviewed⟩ := hrun rfl rfl [anonymousMove, anonymousMove] [adminMove, adminMove] oneSecret
    (.cons hmoves (.cons hmoves .nil)) (fun x hx => by
      simp only [List.mem_cons, List.not_mem_nil, or_false, or_self] at hx
      exact ⟨.admin, by rw [hx]; rfl, rfl⟩)
  exact ⟨⟨hopen, htoken, hcall _ _ _ _ oneSecret hmove hopen htoken⟩, heffect, hunreviewed⟩

end AccessGate.Client
