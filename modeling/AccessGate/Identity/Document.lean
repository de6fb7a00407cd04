/-
Callers as documents. The token is never part of one.
-/
import AccessGate.Identity.Basic
import AccessGate.Json.Record

namespace AccessGate

namespace ServiceAccount

def ofJson? (j : Json) : Option ServiceAccount := do
  let fields ← j.record? ["namespace", "name"]
  let ns ← Json.required Json.asString? fields "namespace"
  let name ← Json.required Json.asString? fields "name"
  some ⟨ns, name⟩

def toJson (a : ServiceAccount) : Json :=
  .object [("namespace", .str a.ns), ("name", .str a.name)]

end ServiceAccount

namespace Identity

def claimsOfJson? (j : Json) : Option (Assoc String String) :=
  j.asFields?.bind fun fields => fields.mapM fun f => f.2.asString?.map (f.1, ·)

/-- A set of accounts, each kept once. -/
def accountSetOfJson? (j : Json) : Option (List ServiceAccount) :=
  j.asList?.bind fun xs => (xs.mapM ServiceAccount.ofJson?).map (·.foldl addAccount [])

def accountsOfJson? (j : Json) : Option (Assoc String (List ServiceAccount)) :=
  j.asFields?.bind fun fields => fields.mapM fun f => (accountSetOfJson? f.2).map (f.1, ·)

/-- Reads a caller; what is absent is empty, and there is no token. -/
def ofJson? (j : Json) : Option Identity := do
  let fields ← j.record? ["is_admin", "claims", "service_accounts_by_namespace"]
  let isAdmin ← Json.withDefault Json.asBool? false fields "is_admin"
  let claims ← Json.withDefault claimsOfJson? [] fields "claims"
  let accounts ← Json.withDefault accountsOfJson? [] fields "service_accounts_by_namespace"
  some { isAdmin, claims, accounts }

def toJson (i : Identity) : Json :=
  .object
    [("is_admin", .bool i.isAdmin),
      ("claims", .obj (i.claims.mapValues .str)),
      ("service_accounts_by_namespace", .obj (i.accounts.mapValues fun as => .arr (as.map ServiceAccount.toJson)))]

end Identity

end AccessGate
