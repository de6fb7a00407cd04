/-
The gate in front of a cluster. Every operation is resolved to a descriptor and decided on, in this
order, and reaches the cluster only if it is allowed; the decision has no influence on what the
operation then does.
-/
import AccessGate.Client.Request
import AccessGate.Decision
import AccessGate.Descriptor.Scheme
import AccessGate.Options

namespace AccessGate

/-- A gate in front of a cluster. -/
structure Client where
  resolver : Resolver
  /-- Whether every operation is allowed unchecked. -/
  skipAuthorization : Bool
  /-- The namespaces whose accounts are tried for every caller. -/
  globalNamespaces : List String

namespace Client

open Cluster (Store Fresh)

/-- The gate with the given options. -/
def ofOptions (r : Resolver) (o : ClientOptions) : Client :=
  ⟨r, o.skipAuthorization, AccessGate.globalNamespaces o.globalNamespaces⟩

/-- One call: who makes it, if that is known, what becomes of its reviews, and the chance values that
a creation may use. -/
structure Call where
  caller : Option Identity
  world : World
  fresh : Fresh

/-- What a call comes to. -/
inductive Outcome where
  | ok (p : Product)
  | error (e : AccessError)
  /-- A review has not been answered yet. -/
  | pending

/-- What a call comes to, the decision it was gated by, and the cluster after it. -/
structure Reply where
  outcome : Outcome
  /-- None if the type is not registered. -/
  decision : Option Decision
  store : Store

/-- Decides on an operation. -/
def authorize (c : Client) (call : Call) (o : Operation) : Decision :=
  if c.skipAuthorization then ⟨.granted .unchecked, []⟩
  else Decision.make c.globalNamespaces call.world call.caller o

/-- The operation on a resource or, if one is named, its sub-resource. -/
def operation (v : Verb) (d : Descriptor) (sub : String) (key : ObjectKey) : Operation :=
  ⟨v, if sub = "" then d else d.withSubresource sub, key⟩

/-- What a request asks to be allowed. -/
def operationOf (d : Descriptor) (q : Request) : Operation :=
  operation q.verb d q.subresource q.key

/-- The descriptor of the type that a request is about. -/
def descriptor? (c : Client) (k : Kind) (q : Request) : Option Descriptor :=
  c.resolver.descriptor? (if q.isList then .listOf k.kind else .single k.kind)

/-- What a request is aimed at in the cluster. -/
def target (d : Descriptor) (q : Request) : Cluster.Target :=
  .of d.apiResource q.key.scope?

/-- Performs a request on objects of a kind. -/
def perform (c : Client) (call : Call) (k : Kind) (s : Store) (q : Request) : Reply :=
  match c.descriptor? k q with
  | none => ⟨.error .unregisteredType, none, s⟩
  | some d =>
    let decision := c.authorize call (operationOf d q)
    match decision.verdict with
    | .refused e => ⟨.error e, decision, s⟩
    | .pending => ⟨.pending, decision, s⟩
    | .granted _ =>
      match q.run k call.fresh s (target d q) with
      | (.ok p, s) => ⟨.ok p, decision, s⟩
      | (.error e, s) => ⟨.error e, decision, s⟩

end Client

end AccessGate
