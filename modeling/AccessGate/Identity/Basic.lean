/-
Callers: what their credentials claim, the service accounts that they may act as, filed by namespace,
and their own token. The accounts of a namespace are a set; the list that holds them gives the order in
which they are tried.
-/
import AccessGate.Assoc

namespace AccessGate

/-- A service account of a namespace. -/
structure ServiceAccount where
  ns : String
  name : String
deriving DecidableEq, Repr

namespace ServiceAccount

/-- The user name under which a cluster knows the account. -/
def username (a : ServiceAccount) : String :=
  "system:serviceaccount:" ++ a.ns ++ ":" ++ a.name

def text (a : ServiceAccount) : String :=
  a.ns ++ "/" ++ a.name

end ServiceAccount

/-- A caller. -/
structure Identity where
  isAdmin : Bool := false
  claims : Assoc String String := []
  accounts : Assoc String (List ServiceAccount) := []
  token : String := ""
deriving DecidableEq, Repr

namespace Identity

/-- A caller who may do everything. -/
def admin : Identity :=
  { isAdmin := true }

def withClaim (i : Identity) (name value : String) : Identity :=
  { i with claims := i.claims.insert name value }

/-- The set with an account, added at the end if it is new. -/
def addAccount (set : List ServiceAccount) (a : ServiceAccount) : List ServiceAccount :=
  if set.contains a then set else set ++ [a]

/-- Files an account under its namespace. -/
def withAccount (i : Identity) (a : ServiceAccount) : Identity :=
  { i with accounts := i.accounts.insert a.ns (addAccount ((i.accounts.get? a.ns).getD []) a) }

def withToken (i : Identity) (token : String) : Identity :=
  { i with token }

def claim? (i : Identity) (name : String) : Option String :=
  i.claims.get? name

/-- The claim that says who the caller is. -/
def subjectClaim : String := "sub"

def hasSubject (i : Identity) : Bool :=
  i.claims.has subjectClaim

/-- The accounts filed under a namespace. -/
def accountsIn (i : Identity) (ns : String) : List ServiceAccount :=
  (i.accounts.get? ns).getD []

/-- How logs name the caller; never by the token. -/
def logId (i : Identity) : String :=
  if i.isAdmin then "admin"
  else
    match i.claim? subjectClaim with
    | some s => "sub:" ++ s
    | none => if i.token = "" then "anonymous" else "bearer"

end Identity

end AccessGate
