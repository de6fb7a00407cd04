/-
Callers written as documents and read again. Whatever a caller's token is, it does not go into the document,
and a caller that is read has none (`ofJson?_toJson`).
-/
import AccessGate.Proofs.Identity.Filing

namespace AccessGate

/-- In an object of given members the last of a name counts. -/
theorem Json.withDefault_object {α : Type} (read : Json → Option α) (d : α) (members : List (String × Json))
    (k : String) : withDefault read d (Assoc.ofBindings members) k = withDefault read d members.reverse k := by
  unfold withDefault
  rw [Assoc.get?_ofBindings]

theorem ServiceAccount.ofJson?_toJson (a : ServiceAccount) : ofJson? a.toJson = some a := by
  unfold ofJson? toJson Json.object Json.record? Json.required
  simp only [Assoc.get?_ofBindings, Option.bind_eq_bind, Option.bind_some]
  rfl

namespace Identity

/-- The caller as a document gives it back: every set as it grows account by account, and no token. -/
def reread (i : Identity) : Identity :=
  { i with accounts := i.accounts.mapValues (·.foldl addAccount []), token := "" }

theorem claimsOfJson?_obj (claims : Assoc String String) :
    claimsOfJson? (.obj (claims.mapValues .str)) = some claims := by
  unfold claimsOfJson? Assoc.mapValues
  rw [Json.asFields?, Option.bind_some, List.mapM_map]
  have hread : (fun f : String × Json => f.2.asString?.map (f.1, ·)) ∘ (fun c : String × String => (c.1, .str c.2)) =
      fun c => pure c := rfl
  rw [hread, List.mapM_pure, List.map_id']
  rfl

theorem accountSetOfJson?_arr (set : List ServiceAccount) :
    accountSetOfJson? (.arr (set.map ServiceAccount.toJson)) = some (set.foldl addAccount []) := by
  unfold accountSetOfJson?
  rw [Json.asList?, Option.bind_some, List.mapM_map]
  have hread : ServiceAccount.ofJson? ∘ ServiceAccount.toJson = fun a => pure a :=
    funext ServiceAccount.ofJson?_toJson
  rw [hread, List.mapM_pure, List.map_id']
  rfl

theorem accountsOfJson?_obj (accounts : Assoc String (List ServiceAccount)) :
    accountsOfJson? (.obj (accounts.mapValues fun set => .arr (set.map ServiceAccount.toJson))) =
      some (accounts.mapValues (·.foldl addAccount [])) := by
  unfold accountsOfJson? Assoc.mapValues
  rw [Json.asFields?, Option.bind_some, List.mapM_map]
  have hread : (fun f : String × Json => (accountSetOfJson? f.2).map (f.1, ·)) ∘
      (fun b : String × List ServiceAccount => (b.1, .arr (b.2.map ServiceAccount.toJson))) =
      fun b => pure (b.1, b.2.foldl addAccount []) := by
    funext b
    simp only [Function.comp_apply, accountSetOfJson?_arr]
    rfl
  rw [hread, List.mapM_pure]
  rfl

/-- The members of the document of a caller. -/
def members (i : Identity) : List (String × Json) :=
  [("is_admin", .bool i.isAdmin), ("claims", .obj (i.claims.mapValues .str)),
    ("service_accounts_by_namespace",
      .obj (i.accounts.mapValues fun set => .arr (set.map ServiceAccount.toJson)))]

/-- What is written of a caller can be read, and gives the caller back without the token. -/
theorem ofJson?_toJson (i : Identity) : ofJson? i.toJson = some i.reread := by
  have hadmin : Json.withDefault Json.asBool? false i.members.reverse "is_admin" = some i.isAdmin := rfl
  have hclaims : Json.withDefault claimsOfJson? [] i.members.reverse "claims" = some i.claims :=
    claimsOfJson?_obj i.claims
  have haccounts : Json.withDefault accountsOfJson? [] i.members.reverse "service_accounts_by_namespace" =
      some (i.accounts.mapValues (·.foldl addAccount [])) :=
    accountsOfJson?_obj i.accounts
  have hrecord : i.toJson.record? ["is_admin", "claims", "service_accounts_by_namespace"] =
      some (Assoc.ofBindings i.members) := rfl
  unfold ofJson?
  rw [hrecord]
  simp only [Option.bind_eq_bind, Option.bind_some, Json.withDefault_object, hadmin, hclaims, haccounts]
  rfl

end Identity

end AccessGate
