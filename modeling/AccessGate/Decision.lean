/-
The decision whether a caller may perform an operation.

Without a caller the answer is no, and an administrator passes. Otherwise the caller's service accounts
are reviewed, if the caller has a subject claim: those of the object's namespace, then those of the
global namespaces in their order. The first that is allowed grants access. When all are denied, the
caller's own token is reviewed. A review that fails, or that is cancelled, ends the decision, and nothing
is remembered from one decision to the next.
-/
import AccessGate.Error.Access
import AccessGate.Review.Basic

namespace AccessGate

/-- Why an operation is allowed. -/
inductive Grant where
  | admin
  | serviceAccount (a : ServiceAccount)
  | caller
  /-- Nothing is checked. -/
  | unchecked
deriving DecidableEq, Repr

namespace Grant

/-- How a grant is counted. -/
def basis : Grant → String
  | admin => "admin"
  | serviceAccount _ => "service_account"
  | caller => "caller"
  | unchecked => "unchecked"

/-- The grant as diagnostics show it. -/
def shown : Grant → String
  | admin => "Admin"
  | serviceAccount a => "ServiceAccount(" ++ a.shown ++ ")"
  | caller => "Caller"
  | unchecked => "Unchecked"

end Grant

/-- What a decision comes to. -/
inductive Verdict where
  | granted (g : Grant)
  | refused (e : AccessError)
  /-- A review has not been answered yet. -/
  | pending
deriving DecidableEq, Repr

/-- A decision: what it comes to, and its reviews in order. -/
structure Decision where
  verdict : Verdict
  reviews : List Review := []
deriving DecidableEq, Repr

/-- An operation to be decided on. -/
structure Operation where
  verb : Verb
  descriptor : Descriptor
  key : ObjectKey
deriving DecidableEq, Repr

namespace Operation

def attributes (o : Operation) : Attributes :=
  .of o.verb o.descriptor o.key

/-- The refusal of an operation. -/
def forbidden (o : Operation) (reason : String) : AccessError :=
  .forbidden o.verb.name o.descriptor.text o.key.name reason

end Operation

/-- Namespaces that are searched for every caller, in order, none empty and none twice. -/
def globalNamespaces (names : List String) : List String :=
  (names.filter (· ≠ "")).foldl (fun seen ns => if seen.contains ns then seen else seen ++ [ns]) []

namespace Decision

/-- The decision with a review before its own. -/
def after (d : Decision) (r : Review) : Decision :=
  { d with reviews := r :: d.reviews }

/-- The namespaces whose accounts are tried: the object's own, then the others. -/
def candidateNamespaces (globals : List String) (ns : String) : List String :=
  (if ns = "" then [] else [ns]) ++ globals.filter (· ≠ ns)

/-- The accounts that are tried, in order. Without a subject claim there are none. -/
def candidates (globals : List String) (i : Identity) (ns : String) : List ServiceAccount :=
  if i.hasSubject then (candidateNamespaces globals ns).flatMap i.accountsIn else []

/-- Reviews accounts in turn from the n-th review on; `otherwise` goes on when all are denied. -/
def tryAccounts (w : World) (a : Attributes) (otherwise : Nat → Decision) :
    Nat → List ServiceAccount → Decision
  | n, [] => otherwise n
  | n, sa :: rest =>
    let r : Review := ⟨.serviceAccount sa, a, w n a (.serviceAccount sa)⟩
    match r.fate with
    | .answered .allowed => ⟨.granted (.serviceAccount sa), [r]⟩
    | .answered (.forbidden _) => (tryAccounts w a otherwise (n + 1) rest).after r
    | .answered (.failed m) =>
      ⟨.refused (.internal (r.subject.label ++ " access review failed: " ++ m)), [r]⟩
    | .waiting => ⟨.pending, [r]⟩
    | .interrupted | .unasked => ⟨.refused .cancelled, [r]⟩

/-- Reviews the caller's own token as the n-th review. Without a token nothing is asked. -/
def tryToken (w : World) (o : Operation) (token : String) (n : Nat) : Decision :=
  if token = "" then ⟨.refused (o.forbidden "no bearer token to review"), []⟩
  else
    let r : Review := ⟨.bearer token, o.attributes, w n o.attributes (.bearer token)⟩
    let verdict := match r.fate with
      | .answered .allowed => .granted .caller
      | .answered (.forbidden reason) => .refused (o.forbidden reason)
      | .answered (.failed m) => .refused (.internal (r.subject.label ++ " access review failed: " ++ m))
      | .waiting => .pending
      | .interrupted | .unasked => .refused .cancelled
    ⟨verdict, [r]⟩

end Decision

/-- Decides whether a caller may perform an operation. -/
def Decision.make (globals : List String) (w : World) (caller : Option Identity) (o : Operation) : Decision :=
  match caller with
  | none => ⟨.refused .notAllowed, []⟩
  | some i =>
    if i.isAdmin then ⟨.granted .admin, []⟩
    else
      Decision.tryAccounts w o.attributes (Decision.tryToken w o i.token) 0
        (Decision.candidates globals i o.key.ns)

end AccessGate
