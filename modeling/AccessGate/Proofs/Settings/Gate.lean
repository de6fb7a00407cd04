/-
From settings to the gate. Settings that are loaded were accepted, whatever they were put together from
(`validate_eq_ok_iff`), and a gate that is set up with accepted settings searches the namespaces that they
name, in their order. Main statement: `gate_of_loaded`.
-/
import AccessGate.Client.Basic
import AccessGate.Proofs.Decision.Rules
import AccessGate.Proofs.Outcome
import AccessGate.Proofs.Text.Lower
import AccessGate.Settings.Loader

namespace AccessGate

open Network (SocketAddress)

namespace ClientOptions

theorem foldl_withGlobalNamespace (names : List String) : ∀ o : ClientOptions,
    names.foldl withGlobalNamespace o = { o with globalNamespaces := names.foldl addName o.globalNamespaces } := by
  induction names with
  | nil => intro o; rfl
  | cons ns names ih => intro o; exact ih _

end ClientOptions

namespace Settings

/-! ## What is accepted -/

/-- Which settings are accepted. -/
structure ApiSettings.Accepted (s : ApiSettings) : Prop where
  address : ∃ a, SocketAddress.parse? s.server.httpAddr = some a ∧
    (s.authorization.skipAuthorization = true → a.ip.isLoopback = true)
  names : ∀ ns ∈ s.authorization.globalNamespaces, Text.isAllBlank ns = false ∧ Text.trim ns = ns
  level : s.logging.enabled = true → ∃ ds, Telemetry.readDirectives s.logging.level = .ok ds
  buckets : s.metrics.enabled = true → s.metrics.reviewDurationBuckets ≠ []

theorem checkServer_eq_ok {s : Server} {a : SocketAddress} :
    checkServer s = .ok a ↔ SocketAddress.parse? s.httpAddr = some a := by
  unfold checkServer
  split
  · rename_i a' ha'
    rw [ha']
    simp
  · rename_i h
    simp [h]

theorem checkSkip_eq_ok {s : Authorization} {a : SocketAddress} :
    checkSkip s a = .ok () ↔ (s.skipAuthorization = true → a.ip.isLoopback = true) := by
  unfold checkSkip
  split
  · rename_i h
    simp only [Bool.and_eq_true, Bool.not_eq_true'] at h
    simp [h.1, h.2]
  · rename_i h
    simp only [Bool.and_eq_true, Bool.not_eq_true', not_and, Bool.not_eq_false] at h
    simpa using h

theorem checkNamespaces_eq_ok {s : Authorization} : checkNamespaces s = .ok () ↔
    ∀ ns ∈ s.globalNamespaces, Text.isAllBlank ns = false ∧ Text.trim ns = ns := by
  unfold checkNamespaces
  split
  · rename_i h
    obtain ⟨ns, hns, hblank⟩ := List.any_eq_true.1 h
    simp only [reduceCtorEq, false_iff, not_forall]
    exact ⟨ns, hns, by simp [hblank]⟩
  · rename_i hblank
    have hblank : ∀ ns ∈ s.globalNamespaces, Text.isAllBlank ns = false := by simpa using hblank
    split
    · -- the name that is not trimmed is refused by its own check
      rename_i ns hfind
      have hns := List.mem_of_find?_eq_some hfind
      have htrim := List.find?_some hfind
      simp only [decide_eq_true_eq] at htrim
      simp only [reduceCtorEq, false_iff, not_forall]
      exact ⟨ns, hns, fun h => htrim h.2⟩
    · rename_i hfind
      simp only [true_iff]
      intro ns hns
      refine ⟨hblank ns hns, ?_⟩
      simpa using List.find?_eq_none.1 hfind ns hns

theorem checkLogging_eq_ok {s : Logging} : checkLogging s = .ok () ↔
    (s.enabled = true → ∃ ds, Telemetry.readDirectives s.level = .ok ds) := by
  unfold checkLogging
  split
  · rename_i h
    split
    · rename_i ds hds
      simp [h, hds]
    · rename_i e he
      simp [h, he]
  · rename_i h
    simp [h]

theorem checkMetrics_eq_ok {s : Metrics} : checkMetrics s = .ok () ↔
    (s.enabled = true → s.reviewDurationBuckets ≠ []) := by
  unfold checkMetrics
  split
  · rename_i h
    simp only [Bool.and_eq_true, List.isEmpty_iff] at h
    simp [h.1, h.2]
  · rename_i h
    simp only [Bool.and_eq_true, List.isEmpty_iff, not_and] at h
    simpa using h

theorem validate_eq_ok_iff {s : ApiSettings} : s.validate = .ok () ↔ s.Accepted := by
  unfold ApiSettings.validate
  simp only [bind_eq_ok]
  constructor
  · rintro ⟨a, ha, ⟨⟩, hskip, ⟨⟩, hnames, ⟨⟩, hlevel, hbuckets⟩
    exact ⟨⟨a, checkServer_eq_ok.1 ha, checkSkip_eq_ok.1 hskip⟩, checkNamespaces_eq_ok.1 hnames,
      checkLogging_eq_ok.1 hlevel, checkMetrics_eq_ok.1 hbuckets⟩
  · rintro ⟨⟨a, ha, hskip⟩, hnames, hlevel, hbuckets⟩
    exact ⟨a, checkServer_eq_ok.2 ha, (), checkSkip_eq_ok.2 hskip, (), checkNamespaces_eq_ok.2 hnames, (),
      checkLogging_eq_ok.2 hlevel, checkMetrics_eq_ok.2 hbuckets⟩

/-- Whatever settings are loaded from, they are checked when everything has been put together. -/
theorem Loading.accepted_of_load {x : Loading} {s : ApiSettings} (h : x.load = .ok s) : s.Accepted := by
  unfold Loading.load Loader.load at h
  split at h
  all_goals
    simp only [bind_eq_ok] at h
    obtain ⟨s', -, ⟨⟩, hvalid, hs⟩ := h
    cases hs
    exact validate_eq_ok_iff.1 hvalid

/-! ## The gate -/

namespace ApiSettings

theorem clientOptions_eq (s : ApiSettings) :
    s.clientOptions =
      ⟨s.authorization.skipAuthorization, (s.authorization.globalNamespaces.map Text.trim).eraseDups⟩ := by
  unfold clientOptions
  rw [ClientOptions.foldl_withGlobalNamespace]
  exact congrArg _ (foldl_keepFirst _ [] rfl)

namespace Accepted

variable {s : ApiSettings}

theorem name_ne_empty (h : s.Accepted) {ns : String} (hns : ns ∈ s.authorization.globalNamespaces) : ns ≠ "" := by
  rintro rfl
  have hblank := (h.names "" hns).1
  exact absurd hblank (by decide)

/-- The namespaces are the engine's as they stand: no blanks are left to drop, and no repetitions. -/
theorem globalNamespaces_ofOptions (h : s.Accepted) (r : Resolver) :
    (Client.ofOptions r s.clientOptions).globalNamespaces = s.authorization.globalNamespaces.eraseDups := by
  have hkept : s.authorization.globalNamespaces.eraseDups.filter (· ≠ "") =
      s.authorization.globalNamespaces.eraseDups := by
    rw [List.filter_eq_self]
    intro ns hns
    simpa using h.name_ne_empty (List.mem_eraseDups.1 hns)
  unfold Client.ofOptions
  rw [clientOptions_eq]
  show AccessGate.globalNamespaces (s.authorization.globalNamespaces.map Text.trim).eraseDups = _
  rw [Text.map_trim_eq_self fun ns hns => (h.names ns hns).2, globalNamespaces_eq, hkept,
    eraseDups_of_nodup (nodup_eraseDups _)]

end Accepted

end ApiSettings

/-- Settings that were loaded, by any steps in any environment. A gate that is set up with them decides otherwise than
its engine only if the address of the server is one that nobody else reaches. For an object of any namespace the engine
searches that namespace, unless it is empty, and then the other namespaces of the settings, in their order and each
where it comes first. None of them is blank or has blanks around it. -/
theorem gate_of_loaded (env : Environment) (steps : List Step) (s : ApiSettings) (r : Resolver)
    (hs : (({ env := env } : Loading).run steps).bind Loading.load = .ok s) :
    let gate := Client.ofOptions r s.clientOptions
    let names := s.authorization.globalNamespaces
    (∀ call o, gate.authorize call o ≠ Decision.make gate.globalNamespaces call.world call.caller o →
      ∃ a, SocketAddress.parse? s.server.httpAddr = some a ∧ a.ip.isLoopback = true) ∧
    (∀ ns, Decision.candidateNamespaces gate.globalNamespaces ns =
      (if ns = "" then [] else [ns]) ++ (names.filter (· ≠ ns)).eraseDups) ∧
    ∀ ns ∈ names, Text.isAllBlank ns = false ∧ Text.trim ns = ns := by
  intro gate names
  obtain ⟨x, -, hload⟩ := bind_eq_ok.1 hs
  have h : s.Accepted := Loading.accepted_of_load hload
  refine ⟨?bypass, ?order, h.names⟩
  case bypass =>
    intro call o hother
    obtain ⟨a, ha, hskip⟩ := h.address
    -- without the flag the gate does what its engine decides
    have hskips : gate.skipAuthorization = true := by
      by_contra hnot
      exact hother (if_neg hnot)
    have hoptions : gate.skipAuthorization = s.authorization.skipAuthorization := by
      show s.clientOptions.skipAuthorization = _
      rw [ApiSettings.clientOptions_eq]
    exact ⟨a, ha, hskip (hoptions ▸ hskips)⟩
  case order =>
    intro ns
    unfold Decision.candidateNamespaces
    rw [h.globalNamespaces_ofOptions, filter_eraseDups]

/-- The preset for development, two namespaces with one of them again, and another address of the machine itself. -/
def sampleSteps : List Step :=
  [.development,
    .text "[authorization]\nglobal_service_account_namespaces = [\" shared \", \"common\", \"shared\"]" "TOML",
    .envPrefix "gate"]

def sampleEnvironment : Environment :=
  .ofTexts [("GATE__SERVER__HTTP_ADDR", "[::1]:9000")]

/-- What the sample loads. -/
def sampleSettings : ApiSettings :=
  { ApiSettings.development with
    server := { httpAddr := "[::1]:9000" }
    authorization := ⟨true, ["shared", "common", "shared"]⟩ }

/-- Nothing is checked, since nobody else reaches the server. -/
theorem unchecked_on_loopback :
    (({ env := sampleEnvironment } : Loading).run sampleSteps).bind Loading.load = .ok sampleSettings ∧
    let gate := Client.ofOptions ⟨.ofCluster, []⟩ sampleSettings.clientOptions
    gate.skipAuthorization = true ∧
    (∃ a, SocketAddress.parse? sampleSettings.server.httpAddr = some a ∧ a.ip.isLoopback = true) ∧
    Decision.candidateNamespaces gate.globalNamespaces "common" = ["common", "shared"] := by
  have hs : (({ env := sampleEnvironment } : Loading).run sampleSteps).bind Loading.load = .ok sampleSettings := by
    decide +kernel
  obtain ⟨hbypass, horder, -⟩ := gate_of_loaded sampleEnvironment sampleSteps sampleSettings ⟨.ofCluster, []⟩ hs
  let call : Client.Call := ⟨none, fun _ _ _ => .waiting, ⟨"", ""⟩⟩
  let o : Operation := ⟨.get, ⟨"", "", "", "", ""⟩, ⟨"", ""⟩⟩
  refine ⟨hs, rfl, hbypass call o (by decide), ?_⟩
  rw [horder "common"]
  decide

end Settings

end AccessGate
