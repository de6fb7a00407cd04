/-
What is sent for a review, and with which credentials. The attributes of an operation are written so that they can be
read again (`ofJson_attributesJson`): what is left out is empty, and the group is never left out. Main statement: two
operations are never asked about in the same words, a service account is named and asked about with the credentials of
the platform, and a caller is asked about with the caller's token, whatever credentials the platform has
(`review_asks_faithfully`).
-/
import AccessGate.Proofs.Api.Review
import AccessGate.Review.Document

namespace AccessGate.Api

/-! ## Attributes -/

/-- The attributes that are left out if they are empty, by name. -/
def omissible (a : Attributes) : List (String × String) :=
  [("name", a.name), ("namespace", a.ns), ("subresource", a.subresource), ("resource", a.resource),
    ("version", a.version), ("verb", a.verb)]

/-- A text that is left out if it is empty, looked up among members. -/
theorem get?_omissible (k v k' : String) : (Assoc.ofBindings (if v = "" then [] else [(k, Json.str v)])).get? k' =
    if k' = k ∧ v ≠ "" then some (.str v) else none := by
  by_cases hv : v = ""
  · simp [hv, Assoc.ofBindings, Assoc.get?]
  · simp [hv, Assoc.ofBindings, Assoc.insert, Assoc.get?]

theorem get?_attributesJson (a : Attributes) (k : String) : (attributesJson a).get? k =
    (omissible a).foldr (fun m r => (if k = m.1 ∧ m.2 ≠ "" then some (.str m.2) else none).or r)
      (if k = "group" then some (.str a.group) else none) := by
  simp only [attributesJson, Json.object, Json.get?, Assoc.get?_ofBindings_append, get?_omissible]
  rfl

theorem get?_group (a : Attributes) : (attributesJson a).get? "group" = some (.str a.group) := by
  simp [get?_attributesJson, omissible]

/-- What is left out is read as empty. -/
theorem asText_omissible (v : String) : ((if v = "" then none else some (Json.str v)).getD .null).asText = v := by
  by_cases hv : v = ""
  · rw [hv]
    rfl
  · rw [if_neg hv]
    rfl

/-- What is written of attributes is read as the same attributes. -/
theorem ofJson_attributesJson (a : Attributes) : Attributes.ofJson (attributesJson a) = a := by
  have hgroup : (attributesJson a).textAt "group" = a.group := by
    rw [Json.textAt, Json.field, get?_group]
    rfl
  unfold Attributes.ofJson
  rw [hgroup]
  simp [Json.textAt, Json.field, get?_attributesJson, omissible, asText_omissible]

theorem attributesJson_injective {a b : Attributes} (h : attributesJson a = attributesJson b) : a = b := by
  have hread := congrArg Attributes.ofJson h
  rwa [ofJson_attributesJson, ofJson_attributesJson] at hread

/-! ## Requests -/

/-- The body of a review asks about the attributes, and names a user if there is one. -/
theorem exists_spec (a : Attributes) (s : Subject) : ∃ spec, (reviewBody a s).get? "spec" = some spec ∧
    spec.get? "resourceAttributes" = some (attributesJson a) ∧ spec.get? "user" = (reviewUser? s).map .str := by
  refine ⟨.object ([("resourceAttributes", attributesJson a)] ++ Json.member? "user" ((reviewUser? s).map .str)), ?_, ?_,
    ?_⟩
  · simp [reviewBody, Json.object, Json.get?, Assoc.get?_ofBindings, Assoc.get?]
  all_goals
    cases s <;> simp [reviewUser?, Json.member?, Json.object, Json.get?, Assoc.get?_ofBindings, Assoc.get?]

/-- Two requests for reviews that are the same ask about the same. -/
theorem attributes_eq_of_request_eq {c c' : Connection} {a b : Attributes} {s s' : Subject}
    (h : reviewRequest c a s = reviewRequest c' b s') : a = b := by
  have hbody : reviewBody a s = reviewBody b s' := Option.some.inj (congrArg Request.body h)
  obtain ⟨spec, hspec, hattributes, -⟩ := exists_spec a s
  obtain ⟨spec', hspec', hattributes', -⟩ := exists_spec b s'
  rw [hbody, hspec'] at hspec
  cases hspec
  rw [hattributes] at hattributes'
  exact attributesJson_injective (Option.some.inj hattributes')

/-! ## Credentials -/

/-- Only the token of a caller goes into the header of the caller's own review; blanks at its end are not sent. -/
theorem authorization?_ofToken (token : String) : (Credentials.ofToken token).authorization? =
    some (String.ofList (Text.trimEndChars ("Bearer " ++ token).toList)) :=
  rfl

/-- What is asked for a review determines the operation that it is about, and the group is in it also if it is empty.
A review for a service account names the account's user, and is sent over the platform's own connection. A review for
a caller names no user. Whatever credentials the platform has for a server, the connection for a caller's token is the
same: it has that token as its only credential and everything else as before, so that the same is asked and the same
answered. -/
theorem review_asks_faithfully :
    (∀ a b, attributesJson a = attributesJson b → a = b) ∧
    (∀ c c' a b s s', reviewRequest c a s = reviewRequest c' b s' → a = b) ∧
    (∀ a, (attributesJson a).get? "group" = some (.str a.group)) ∧
    (∀ c a s, ∃ body spec, (reviewRequest c a s).body = some body ∧ body.get? "spec" = some spec ∧
      spec.get? "resourceAttributes" = some (attributesJson a) ∧
      (∀ x : ServiceAccount, s = .serviceAccount x →
        spec.get? "user" = some (.str ("system:serviceaccount:" ++ x.ns ++ ":" ++ x.name))) ∧
      ∀ token, s = .bearer token → spec.get? "user" = none) ∧
    (∀ (c : Connection) (a : Attributes) (x : ServiceAccount), c.forSubject (.serviceAccount x) = c ∧
      (reviewRequest c a (.serviceAccount x)).authorization = c.credentials.authorization?) ∧
    ∀ (server : Server) (credentials credentials' : Credentials) (token : String),
      let c : Connection := ⟨server, credentials⟩
      let c' : Connection := ⟨server, credentials'⟩
      c.forSubject (.bearer token) = c'.forSubject (.bearer token) ∧
      (c.forSubject (.bearer token)).server = server ∧
      (c.forSubject (.bearer token)).credentials = { token := some token } ∧
      (∀ a, (reviewRequest c a (.bearer token)).authorization =
        some (String.ofList (Text.trimEndChars ("Bearer " ++ token).toList))) ∧
      (∀ a, reviewRequest c a (.bearer token) = reviewRequest c' a (.bearer token)) ∧
      ∀ network n a, reviewer c network n a (.bearer token) = reviewer c' network n a (.bearer token) := by
  refine ⟨fun a b => attributesJson_injective, fun c c' a b s s' => attributes_eq_of_request_eq, get?_group, ?spec,
    fun c a x => ⟨rfl, rfl⟩, ?own⟩
  case spec =>
    intro c a s
    obtain ⟨spec, hspec, hattributes, huser⟩ := exists_spec a s
    refine ⟨_, spec, rfl, hspec, hattributes, ?_, ?_⟩
    · rintro x rfl
      exact huser
    · rintro token rfl
      exact huser
  case own =>
    intro server credentials credentials' token c c'
    have hsame : c.forSubject (.bearer token) = c'.forSubject (.bearer token) := rfl
    have hrequest : ∀ a, reviewRequest c a (.bearer token) = reviewRequest c' a (.bearer token) := by
      intro a
      unfold reviewRequest
      rw [hsame]
    refine ⟨hsame, rfl, rfl, fun a => authorization?_ofToken token, hrequest, ?_⟩
    intro network n a
    unfold reviewer
    rw [hrequest]

/-- Credentials of a platform that has one of almost every kind. -/
def platformCredentials : Credentials :=
  { username := some "admin"
    password := some "hunter2"
    token := some "platform-token"
    tokenFile := some "/var/run/secrets/token"
    clientCertificateData := some "Y2VydA=="
    clientKeyData := some "a2V5"
    impersonate := some "system:admin"
    impersonateGroups := some ["system:masters"]
    exec := some (.obj [("command", .str "kubelogin")]) }

/-- None of the platform's credentials goes with the review for a caller, which names no user; all the same it is about
the one operation, and not about the same one on another resource. -/
theorem platform_credentials_left_out :
    let c : Connection := ⟨{ url := "https://10.0.0.1:6443", rootCertificates := some [[99, 97]] }, platformCredentials⟩
    let own := c.forSubject (.bearer "alice-token")
    let secrets : Attributes := ⟨"list", "", "v1", "secrets", "", "demo", ""⟩
    own.credentials = { token := some "alice-token" } ∧ own.server = c.server ∧
      (reviewRequest c secrets (.bearer "alice-token")).authorization = some "Bearer alice-token" ∧
      attributesJson secrets ≠ attributesJson { secrets with resource := "configmaps" } ∧
      (attributesJson secrets).get? "group" = some (.str "") := by
  intro c own secrets
  obtain ⟨hattributes, -, hgroup, -, -, hown⟩ := review_asks_faithfully
  obtain ⟨-, hserver, hcredentials, hheader, -⟩ := hown c.server platformCredentials {} "alice-token"
  refine ⟨hcredentials, hserver, (hheader secrets).trans (by decide +kernel), ?_, hgroup secrets⟩
  intro h
  exact absurd (hattributes _ _ h) (by decide)

end AccessGate.Api
