/-
Callers and accounts as diagnostics show them. Of a token only whether there is one is shown.
-/
import AccessGate.Identity.Basic
import AccessGate.Text.Quoted

namespace AccessGate

/-- Entries between braces, parted by commas. -/
def bracedEntries (entries : List String) : String :=
  "\x7b" ++ ", ".intercalate entries ++ "\x7d"

/-- A record with its named fields. -/
def shownRecord (name : String) (fields : List (String × String)) : String :=
  name ++ " \x7b " ++ ", ".intercalate (fields.map fun f => f.1 ++ ": " ++ f.2) ++ " \x7d"

def shownFlag (b : Bool) : String :=
  if b then "true" else "false"

namespace ServiceAccount

def shown (a : ServiceAccount) : String :=
  shownRecord "ServiceAccountRef" [("namespace", Text.quoted a.ns), ("name", Text.quoted a.name)]

end ServiceAccount

namespace Identity

/-- What stands for a token. -/
def redacted (token : String) : String :=
  if token = "" then "" else "<redacted>"

def shown (i : Identity) : String :=
  shownRecord "CallerIdentity"
    [("is_admin", shownFlag i.isAdmin),
      ("claims", bracedEntries (i.claims.map fun c => Text.quoted c.1 ++ ": " ++ Text.quoted c.2)),
      ("service_accounts_by_namespace",
        bracedEntries (i.accounts.map fun a =>
          Text.quoted a.1 ++ ": " ++ bracedEntries (a.2.map ServiceAccount.shown))),
      ("bearer_token", Text.quoted (redacted i.token))]

end Identity

end AccessGate
