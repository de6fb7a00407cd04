/-
The sections of the settings as records. Each section is read, written and laid over field by field
(`lawful_of_mem`), and so are the settings section by section (`ApiSettings.lawful`). What is written is read
again as it was, as long as no global namespace has blanks around it (`keeps_of_trimmed`).
-/
import AccessGate.Proofs.Settings.Record
import AccessGate.Proofs.Text.Lower
import AccessGate.Settings.Loader

namespace AccessGate.Settings

/-! ## Fields -/

namespace Field

variable {σ : Type}

def text (key : String) (absent : String) (get : σ → String) : Field σ :=
  ⟨key, String, Json.asString?, .str, absent, get⟩

def flag (key : String) (absent : Bool) (get : σ → Bool) : Field σ :=
  ⟨key, Bool, Json.asBool?, .bool, absent, get⟩

theorem keeps_text (key absent : String) (get : σ → String) (a : σ) : (text key absent get).Keeps a :=
  rfl

theorem keeps_flag (key : String) (absent : Bool) (get : σ → Bool) (a : σ) : (flag key absent get).Keeps a :=
  rfl

theorem plain_text (key absent : String) (get : σ → String) : (text key absent get).Plain :=
  fun _ => rfl

theorem plain_flag (key : String) (absent : Bool) (get : σ → Bool) : (flag key absent get).Plain :=
  fun _ => rfl

end Field

def addressField : Field Server :=
  .text "http_addr" "0.0.0.0:8080" Server.httpAddr

def levelField : Field Logging :=
  .text "level" "info" Logging.level

/-- The global namespaces: their names are read without blanks around them. -/
def namesField : Field Authorization where
  key := "global_service_account_namespaces"
  Value := List String
  read := fun j => j.asStrings?.map fun names => names.map Text.trim
  toJson := Json.strings
  absent := []
  get := Authorization.globalNamespaces

def formatField : Field Logging where
  key := "format"
  Value := Telemetry.LogFormat
  read := Logging.formatOf?
  toJson := fun f => .str f.name
  absent := .json
  get := Logging.format

def bucketsField : Field Metrics where
  key := "review_duration_buckets"
  Value := List Binary64
  read := asNumbers?
  toJson := fun xs => .arr (xs.map .float)
  absent := Telemetry.defaultBuckets
  get := Metrics.reviewDurationBuckets

/-! ## Records -/

def Server.record : Record Server where
  fields := [addressField]
  read? := Server.ofJson?
  toJson := Server.toJson
  absent := {}

def Authorization.record : Record Authorization where
  fields := [.flag "skip_authorization" false Authorization.skipAuthorization, namesField]
  read? := Authorization.ofJson?
  toJson := Authorization.toJson
  absent := {}

def Logging.record : Record Logging where
  fields := [.flag "enabled" true Logging.enabled, levelField, formatField,
    .flag "span_events" false Logging.spanEvents, .flag "file_line_info" false Logging.fileLineInfo]
  read? := Logging.ofJson?
  toJson := Logging.toJson
  absent := {}

def Metrics.record : Record Metrics where
  fields := [.flag "enabled" true Metrics.enabled, bucketsField]
  read? := Metrics.ofJson?
  toJson := Metrics.toJson
  absent := {}

theorem Server.lawful : Server.record.Lawful where
  distinct := by decide
  reads := by
    intro j a
    simp only [record, ofJson?, List.forall_mem_cons, Option.bind_eq_bind, Option.bind_eq_some_iff, Option.some.injEq]
    constructor
    · rintro ⟨given, hgiven, addr, haddr, rfl⟩
      exact ⟨given, hgiven, haddr, by simp⟩
    · rintro ⟨given, hgiven, haddr, -⟩
      exact ⟨given, hgiven, _, haddr, rfl⟩
  writes := fun a => rfl
  absent := by simp [record, addressField, Field.text]
  free := by
    intro P h
    simp only [record, List.forall_mem_cons] at h ⊢
    obtain ⟨⟨addr, haddr⟩, -⟩ := h
    exact ⟨⟨addr⟩, haddr, by simp⟩

theorem withDefault_namesField {given : Assoc String Json} {names : List String} :
    Json.withDefault namesField.read namesField.absent given namesField.key = some names ↔
      ∃ raw, Json.withDefault Json.asStrings? [] given "global_service_account_namespaces" = some raw ∧
        raw.map Text.trim = names := by
  have hkey : namesField.key = "global_service_account_namespaces" := rfl
  unfold Json.withDefault
  rw [hkey]
  cases given.get? "global_service_account_namespaces" with
  | none =>
    show some [] = some names ↔ _
    simp [eq_comm]
  | some j =>
    show j.asStrings?.map (List.map Text.trim) = some names ↔ _
    simp [Option.map_eq_some_iff]

theorem Authorization.lawful : Authorization.record.Lawful where
  distinct := by decide
  reads := by
    intro j a
    simp only [record, ofJson?, List.forall_mem_cons, Option.bind_eq_bind, Option.bind_eq_some_iff, Option.some.injEq]
    constructor
    · rintro ⟨given, hgiven, raw, hraw, skip, hskip, rfl⟩
      exact ⟨given, hgiven, hskip, withDefault_namesField.2 ⟨raw, hraw, rfl⟩, by simp⟩
    · rintro ⟨given, hgiven, hskip, hnames, -⟩
      obtain ⟨raw, hraw, hnames⟩ := withDefault_namesField.1 hnames
      exact ⟨given, hgiven, raw, hraw, _, hskip, by rw [hnames]; rfl⟩
  writes := fun a => rfl
  absent := by simp [record, Field.flag, namesField]
  free := by
    intro P h
    simp only [record, List.forall_mem_cons] at h ⊢
    obtain ⟨⟨skip, hskip⟩, ⟨names, hnames⟩, -⟩ := h
    exact ⟨⟨skip, names⟩, hskip, hnames, by simp⟩

theorem Logging.lawful : Logging.record.Lawful where
  distinct := by decide
  reads := by
    intro j a
    simp only [record, ofJson?, List.forall_mem_cons, Option.bind_eq_bind, Option.bind_eq_some_iff, Option.some.injEq]
    constructor
    · rintro ⟨given, hgiven, enabled, henabled, level, hlevel, format, hformat, spans, hspans, lines, hlines, rfl⟩
      exact ⟨given, hgiven, henabled, hlevel, hformat, hspans, hlines, by simp⟩
    · rintro ⟨given, hgiven, henabled, hlevel, hformat, hspans, hlines, -⟩
      exact ⟨given, hgiven, _, henabled, _, hlevel, _, hformat, _, hspans, _, hlines, rfl⟩
  writes := fun a => rfl
  absent := by simp [record, levelField, Field.text, Field.flag, formatField]
  free := by
    intro P h
    simp only [record, List.forall_mem_cons] at h ⊢
    obtain ⟨⟨enabled, henabled⟩, ⟨level, hlevel⟩, ⟨format, hformat⟩, ⟨spans, hspans⟩, ⟨lines, hlines⟩, -⟩ := h
    exact ⟨⟨enabled, level, format, spans, lines⟩, henabled, hlevel, hformat, hspans, hlines, by simp⟩

theorem Metrics.lawful : Metrics.record.Lawful where
  distinct := by decide
  reads := by
    intro j a
    simp only [record, ofJson?, List.forall_mem_cons, Option.bind_eq_bind, Option.bind_eq_some_iff, Option.some.injEq]
    constructor
    · rintro ⟨given, hgiven, enabled, henabled, buckets, hbuckets, rfl⟩
      exact ⟨given, hgiven, henabled, hbuckets, by simp⟩
    · rintro ⟨given, hgiven, henabled, hbuckets, -⟩
      exact ⟨given, hgiven, _, henabled, _, hbuckets, rfl⟩
  writes := fun a => rfl
  absent := by simp [record, Field.flag, bucketsField]
  free := by
    intro P h
    simp only [record, List.forall_mem_cons] at h ⊢
    obtain ⟨⟨enabled, henabled⟩, ⟨buckets, hbuckets⟩, -⟩ := h
    exact ⟨⟨enabled, buckets⟩, henabled, hbuckets, by simp⟩

/-! ## Sections -/

/-- A section of the settings. -/
structure Part where
  name : String
  Holder : Type
  record : Record Holder
  get : ApiSettings → Holder

/-- A section as a field of the settings. -/
def Part.field (p : Part) : Field ApiSettings :=
  ⟨p.name, p.Holder, p.record.read?, p.record.toJson, p.record.absent, p.get⟩

def serverPart : Part :=
  ⟨"server", Server, Server.record, ApiSettings.server⟩

def authorizationPart : Part :=
  ⟨"authorization", Authorization, Authorization.record, ApiSettings.authorization⟩

def loggingPart : Part :=
  ⟨"logging", Logging, Logging.record, ApiSettings.logging⟩

def metricsPart : Part :=
  ⟨"metrics", Metrics, Metrics.record, ApiSettings.metrics⟩

def parts : List Part :=
  [serverPart, authorizationPart, loggingPart, metricsPart]

def ApiSettings.record : Record ApiSettings where
  fields := parts.map Part.field
  read? := ApiSettings.ofJson?
  toJson := ApiSettings.toJson
  absent := {}

theorem lawful_of_mem : ∀ p ∈ parts, p.record.Lawful := by
  unfold parts
  simp only [List.forall_mem_cons]
  exact ⟨Server.lawful, Authorization.lawful, Logging.lawful, Metrics.lawful, by simp⟩

theorem ApiSettings.lawful : ApiSettings.record.Lawful where
  distinct := by decide
  reads := by
    intro j a
    simp only [record, parts, ofJson?, List.map_cons, List.forall_mem_cons, Option.bind_eq_bind,
      Option.bind_eq_some_iff, Option.some.injEq]
    constructor
    · rintro ⟨given, hgiven, server, hserver, auth, hauth, logging, hlogging, metrics, hmetrics, rfl⟩
      exact ⟨given, hgiven, hserver, hauth, hlogging, hmetrics, by simp⟩
    · rintro ⟨given, hgiven, hserver, hauth, hlogging, hmetrics, -⟩
      exact ⟨given, hgiven, _, hserver, _, hauth, _, hlogging, _, hmetrics, rfl⟩
  writes := fun a => rfl
  absent := by
    have hparts : ∀ p ∈ parts, p.get {} = p.record.absent := by
      unfold parts
      simp only [List.forall_mem_cons]
      exact ⟨rfl, rfl, rfl, rfl, by simp⟩
    exact List.forall_mem_map.2 hparts
  free := by
    intro P h
    simp only [record, parts, List.map_cons, List.forall_mem_cons] at h ⊢
    obtain ⟨⟨server, hserver⟩, ⟨auth, hauth⟩, ⟨logging, hlogging⟩, ⟨metrics, hmetrics⟩, -⟩ := h
    exact ⟨⟨server, auth, logging, metrics⟩, hserver, hauth, hlogging, hmetrics, by simp⟩

/-! ## What is written is read again -/

theorem mapM_map_eq_some {α : Type} {write : α → Json} {read : Json → Option α} (h : ∀ a, read (write a) = some a) :
    ∀ xs : List α, (xs.map write).mapM read = some xs
  | [] => rfl
  | x :: xs => by
    rw [List.map_cons, List.mapM_cons, h, mapM_map_eq_some h xs]
    rfl

theorem asStrings?_strings (xs : List String) : (Json.strings xs).asStrings? = some xs := by
  show (xs.map Json.str).mapM Json.asString? = some xs
  apply mapM_map_eq_some
  exact fun _ => rfl

theorem keeps_formatField (s : Logging) : formatField.Keeps s := by
  show Logging.formatOf? (.str s.format.name) = some s.format
  cases s.format <;> decide

theorem keeps_bucketsField (s : Metrics) : bucketsField.Keeps s := by
  show (s.reviewDurationBuckets.map Json.float).mapM asNumber? = some s.reviewDurationBuckets
  apply mapM_map_eq_some
  exact fun _ => rfl

theorem keeps_namesField {s : Authorization} (h : ∀ ns ∈ s.globalNamespaces, Text.trim ns = ns) :
    namesField.Keeps s := by
  show (Json.strings s.globalNamespaces).asStrings?.map (List.map Text.trim) = some s.globalNamespaces
  rw [asStrings?_strings, Option.map_some, Text.map_trim_eq_self h]

/-- Whether no global namespace has blanks around it. -/
def ApiSettings.Trimmed (s : ApiSettings) : Prop :=
  ∀ ns ∈ s.authorization.globalNamespaces, Text.trim ns = ns

theorem keeps_of_trimmed {s : ApiSettings} (h : s.Trimmed) : ∀ p ∈ parts, ∀ f ∈ p.record.fields, f.Keeps (p.get s) := by
  unfold parts
  simp only [List.forall_mem_cons, serverPart, authorizationPart, loggingPart, metricsPart, Server.record,
    Authorization.record, Logging.record, Metrics.record, addressField, levelField]
  simp [Field.keeps_text, Field.keeps_flag, keeps_namesField h, keeps_formatField, keeps_bucketsField]

/-- No setting is written as an object. -/
theorem plain_of_mem : ∀ p ∈ parts, ∀ f ∈ p.record.fields, f.Plain := by
  have hnames : namesField.Plain := fun _ => rfl
  have hformat : formatField.Plain := fun _ => rfl
  have hbuckets : bucketsField.Plain := fun _ => rfl
  unfold parts
  simp only [List.forall_mem_cons, serverPart, authorizationPart, loggingPart, metricsPart, Server.record,
    Authorization.record, Logging.record, Metrics.record, addressField, levelField]
  simp [Field.plain_text, Field.plain_flag, hnames, hformat, hbuckets]

end AccessGate.Settings
