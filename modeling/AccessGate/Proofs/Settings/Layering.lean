/-
Laying text over settings. What a layer mentions, by name or by place in a list, takes the layer's value, and
what it does not mention keeps its value; but a section that a layer gives as a list is replaced as a whole,
and so are all of them by a layer that is a list itself. Main statement: `layer_over_settings`, for all
settings that steps of loading come to.
-/
import AccessGate.Proofs.Settings.Sections
import AccessGate.Proofs.Toml.Ordered
import Mathlib.Tactic

namespace AccessGate.Settings

/-! ## Names without blanks around them -/

theorem trimmed_of_ofJson? {j : Json} {s : ApiSettings} (h : ApiSettings.ofJson? j = some s) : s.Trimmed := by
  obtain ⟨given, -, hfields⟩ := ApiSettings.lawful.reads.1 h
  have hauth : Json.withDefault Authorization.ofJson? {} given "authorization" = some s.authorization :=
    hfields authorizationPart.field (List.mem_map.2 ⟨authorizationPart, by simp [parts], rfl⟩)
  rw [Json.withDefault_eq_some] at hauth
  cases hget : given.get? "authorization" with
  | none =>
    rw [hget] at hauth
    have hauth : s.authorization = {} := hauth
    intro ns hns
    rw [hauth] at hns
    cases hns
  | some j =>
    rw [hget] at hauth
    obtain ⟨fields, -, hfields⟩ := Authorization.lawful.reads.1 hauth
    obtain ⟨raw, -, hnames⟩ := withDefault_namesField.1 (hfields namesField (by simp [Authorization.record]))
    intro ns hns
    have hns : ns ∈ raw.map Text.trim := by
      rw [hnames]
      exact hns
    obtain ⟨name, -, rfl⟩ := List.mem_map.1 hns
    exact Text.trim_trim name

variable {s s' : ApiSettings} {layer : Json}

theorem withLayer_eq_ok : s.withLayer layer = .ok s' ↔ ApiSettings.ofJson? (s.toJson.overlay layer) = some s' := by
  unfold ApiSettings.withLayer
  cases ApiSettings.ofJson? (s.toJson.overlay layer) <;> simp

theorem Loader.withLayer_eq_ok {l l' : Loader} : l.withLayer layer = .ok l' ↔
    ∃ s, ApiSettings.ofJson? (l.settings.toJson.overlay layer) = some s ∧ l' = { l with settings := s } := by
  unfold Loader.withLayer
  rw [map_eq_ok]
  constructor
  · rintro ⟨s, hs, rfl⟩
    exact ⟨s, Settings.withLayer_eq_ok.1 hs, rfl⟩
  · rintro ⟨s, hs, rfl⟩
    exact ⟨s, Settings.withLayer_eq_ok.2 hs, rfl⟩

theorem Loader.trimmed_withLayer {l l' : Loader} (h : l.withLayer layer = .ok l') : l'.settings.Trimmed := by
  obtain ⟨s, hs, rfl⟩ := Loader.withLayer_eq_ok.1 h
  exact trimmed_of_ofJson? hs

theorem Loader.trimmed_withText {l l' : Loader} {content format : String} (h : l.withText content format = .ok l') :
    l'.settings.Trimmed := by
  unfold Loader.withText at h
  split at h
  · cases h
  · obtain ⟨layer, -, h⟩ := bind_eq_ok.1 h
    exact Loader.trimmed_withLayer h

theorem Loader.trimmed_withFile {l l' : Loader} {path : String} {file : FileState}
    (h : l.withFile path file = .ok l') : l'.settings.Trimmed := by
  cases file with
  | missing => cases h
  | unreadable => cases h
  | text content =>
    simp only [Loader.withFile] at h
    split at h
    · cases h
    · obtain ⟨layer, -, h⟩ := bind_eq_ok.1 h
      exact Loader.trimmed_withLayer h

namespace Loading

/-- Every step leaves the names without blanks around them: presets name none, and a layer is read so. -/
theorem trimmed_step {x x' : Loading} {st : Step} (hx : x.loader.settings.Trimmed) (h : x.step st = .ok x') :
    x'.loader.settings.Trimmed := by
  have hnone : ∀ {s : ApiSettings}, s.authorization.globalNamespaces = [] → s.Trimmed := by
    intro s hs ns hns
    rw [hs] at hns
    cases hns
  cases st with
  | defaults | development | production =>
    cases h
    exact hnone rfl
  | text content format =>
    obtain ⟨l, hl, rfl⟩ := map_eq_ok.1 h
    exact Loader.trimmed_withText hl
  | file path state =>
    obtain ⟨l, hl, rfl⟩ := map_eq_ok.1 h
    exact Loader.trimmed_withFile hl
  | optionalFile path state =>
    obtain ⟨l, hl, rfl⟩ := map_eq_ok.1 h
    unfold Loader.withOptionalFile at hl
    split at hl
    · cases hl
      exact hx
    · exact Loader.trimmed_withFile hl
  | envPrefix pre =>
    cases h
    exact hx
  | dotEnv content =>
    obtain ⟨env, -, rfl⟩ := map_eq_ok.1 h
    exact hx

/-- By induction on the steps. -/
theorem trimmed_run {steps : List Step} : ∀ {x x' : Loading}, x.loader.settings.Trimmed → x.run steps = .ok x' →
    x'.loader.settings.Trimmed := by
  induction steps with
  | nil =>
    intro x x' hx h
    cases h
    exact hx
  | cons st steps ih =>
    intro x x' hx h
    unfold Loading.run at h
    rw [List.foldlM_cons] at h
    obtain ⟨x₁, hstep, hrest⟩ := bind_eq_ok.1 h
    exact ih (trimmed_step hx hstep) hrest

theorem trimmed_of_run {env : Environment} {steps : List Step} {x : Loading}
    (h : ({ env := env } : Loading).run steps = .ok x) : x.loader.settings.Trimmed := by
  refine trimmed_run ?_ h
  intro ns hns
  cases hns

end Loading

/-! ## What a layer mentions -/

/-- What a layer has for a section. -/
def Part.givenIn (p : Part) (layer : Json) : Option Json :=
  layer.entry? ApiSettings.record.names p.name

/-- What a layer has for a field of a section. -/
def Part.entryIn (p : Part) (f : Field p.Holder) (layer : Json) : Option Json :=
  (p.givenIn layer).bind fun v => v.entry? p.record.names f.key

/-- Whether a layer replaces a section as a whole: it is a list, or has a list for the section. -/
def Part.replacedBy (p : Part) (layer : Json) : Bool :=
  layer.isList || (p.givenIn layer).any Json.isList

/-- Whether a layer fits the settings: it has no other sections than there are, no other keys in them, and values of
the right types. -/
structure Fits (layer : Json) : Prop where
  sections : layer.NamedBy ApiSettings.record.names
  keys : ∀ p ∈ parts, ∀ v, p.givenIn layer = some v → v.NamedBy p.record.names
  values : ∀ p ∈ parts, ∀ f ∈ p.record.fields, ∀ v, p.entryIn f layer = some v → ∃ x, f.read v = some x

/-- Whether settings are what a layer makes of others: what it mentions has the layer's value, and what it does not
mention is as it was, or as it is by default where the layer replaces the section. -/
def Layered (layer : Json) (s s' : ApiSettings) : Prop :=
  ∀ p ∈ parts, ∀ f ∈ p.record.fields,
    f.Takes (if p.replacedBy layer then f.absent else f.get (p.get s)) (p.entryIn f layer) (f.get (p.get s'))

/-! ## One section -/

namespace Part

variable {p : Part} {v : Json} {whole : Bool}

theorem ordered_givenIn (h : layer.Ordered) (hv : p.givenIn layer = some v) : v.Ordered :=
  h.entry? hv

theorem entryIn_eq (hv : p.givenIn layer = some v) (f : Field p.Holder) :
    p.entryIn f layer = v.entry? p.record.names f.key := by
  unfold entryIn
  rw [hv, Option.bind_some]

/-- What a layer makes of a section, field by field. -/
theorem laid_some (hp : p ∈ parts) (hs : s.Trimmed) (hv : v.Ordered) {new : p.Holder} :
    p.field.Laid whole s (some v) new ↔ v.NamedBy p.record.names ∧ ∀ f ∈ p.record.fields,
      f.Takes (if whole || v.isList then f.absent else f.get (p.get s)) (v.entry? p.record.names f.key)
        (f.get new) := by
  have h := lawful_of_mem p hp
  have htakes (whole : Bool) : ∀ f ∈ p.record.fields,
      (f.Laid whole (p.get s) (v.entry? p.record.names f.key) (f.get new) ↔ f.Takes _ _ _) :=
    fun f hf => (plain_of_mem p hp f hf).laid_iff fun _ hw => hv.entry? hw
  cases whole with
  | true => exact (h.reads_laid (p.get s)).trans (and_congr_right fun _ => forall₂_congr (htakes true))
  | false =>
    have hover : p.record.read? ((p.record.toJson (p.get s)).overlay v) = some new ↔ _ :=
      h.reads_overlay (keeps_of_trimmed hs p hp) hv
    exact hover.trans (and_congr_right fun _ => forall₂_congr (htakes v.isList))

end Part

/-! ## All sections -/

theorem keeps_field {s : ApiSettings} (hs : s.Trimmed) : ∀ f ∈ ApiSettings.record.fields, f.Keeps s := by
  intro f hf
  obtain ⟨p, hp, rfl⟩ := List.mem_map.1 hf
  exact (lawful_of_mem p hp).keeps (keeps_of_trimmed hs p hp)

theorem ofJson?_overlay_iff (hs : s.Trimmed) (hl : layer.Ordered) :
    ApiSettings.ofJson? (s.toJson.overlay layer) = some s' ↔ layer.NamedBy ApiSettings.record.names ∧
      ∀ p ∈ parts, p.field.Laid layer.isList s (p.givenIn layer) (p.get s') := by
  have hread : ApiSettings.ofJson? (s.toJson.overlay layer) = some s' ↔ _ :=
    ApiSettings.lawful.reads_overlay (keeps_field hs) hl
  rw [hread]
  exact and_congr_right fun _ => List.forall_mem_map

/-- Settings that a layer was laid over are layered. -/
theorem layered_of_overlay (hs : s.Trimmed) (hl : layer.Ordered)
    (h : ApiSettings.ofJson? (s.toJson.overlay layer) = some s') : Fits layer ∧ Layered layer s s' := by
  obtain ⟨hnamed, hparts⟩ := (ofJson?_overlay_iff hs hl).1 h
  have hsome : ∀ p ∈ parts, ∀ v, p.givenIn layer = some v → v.NamedBy p.record.names ∧ ∀ f ∈ p.record.fields,
      f.Takes (if layer.isList || v.isList then f.absent else f.get (p.get s)) (v.entry? p.record.names f.key)
        (f.get (p.get s')) := by
    intro p hp v hv
    have hpart := hparts p hp
    rw [hv] at hpart
    exact (Part.laid_some hp hs (Part.ordered_givenIn hl hv)).1 hpart
  have hlayered : Layered layer s s' := by
    intro p hp f hf
    unfold Part.entryIn Part.replacedBy
    cases hgiven : p.givenIn layer with
    | none =>
      -- the layer has nothing for the section, which is kept or replaced as a whole
      have hpart : p.get s' = if layer.isList then p.record.absent else p.get s := by
        have hpart := hparts p hp
        rw [hgiven] at hpart
        exact hpart
      simp only [Option.bind_none, Option.any_none, Bool.or_false]
      show f.get (p.get s') = _
      rw [hpart, ← (lawful_of_mem p hp).absent f hf]
      split <;> rfl
    | some v => exact (hsome p hp v hgiven).2 f hf
  refine ⟨⟨hnamed, fun p hp v hv => (hsome p hp v hv).1, ?_⟩, hlayered⟩
  intro p hp f hf v hv
  have htakes := hlayered p hp f hf
  rw [hv] at htakes
  exact ⟨_, htakes⟩

/-- A layer that fits can be laid over settings: each field has a value to take. -/
theorem exists_overlay_of_fits (hs : s.Trimmed) (hl : layer.Ordered) (h : Fits layer) :
    ∃ s', ApiSettings.ofJson? (s.toJson.overlay layer) = some s' := by
  have hfield : ∀ p ∈ parts, ∃ new, p.field.Laid layer.isList s (p.givenIn layer) new := by
    intro p hp
    cases hgiven : p.givenIn layer with
    | none => exact ⟨_, rfl⟩
    | some v =>
      have hvalue : ∀ f ∈ p.record.fields, ∃ x,
          f.Takes (if layer.isList || v.isList then f.absent else f.get (p.get s))
            (v.entry? p.record.names f.key) x := by
        intro f hf
        rw [← Part.entryIn_eq hgiven]
        cases hentry : p.entryIn f layer with
        | none => exact ⟨_, rfl⟩
        | some w => exact h.values p hp f hf w hentry
      -- no field depends on another, so a value for each gives a section
      obtain ⟨new, hnew⟩ := (lawful_of_mem p hp).free _ hvalue
      exact ⟨new, (Part.laid_some hp hs (Part.ordered_givenIn hl hgiven)).2 ⟨h.keys p hp v hgiven, hnew⟩⟩
  obtain ⟨s', hs'⟩ := ApiSettings.lawful.free
    (fun f x => f.Laid layer.isList s (layer.entry? ApiSettings.record.names f.key) x)
    (List.forall_mem_map.2 hfield)
  exact ⟨s', (ofJson?_overlay_iff hs hl).2 ⟨h.sections, List.forall_mem_map.1 hs'⟩⟩

/-- A layer that mentions nothing and has no lists makes of settings what they are. -/
theorem overlay_eq_self_of_unmentioned (hs : s.Trimmed) (hl : layer.Ordered) (h : Fits layer)
    (hlists : ∀ p ∈ parts, p.replacedBy layer = false)
    (hnone : ∀ p ∈ parts, ∀ f ∈ p.record.fields, p.entryIn f layer = none) :
    ApiSettings.ofJson? (s.toJson.overlay layer) = some s := by
  refine (ofJson?_overlay_iff hs hl).2 ⟨h.sections, ?_⟩
  intro p hp
  have hlist := hlists p hp
  unfold Part.replacedBy at hlist
  obtain ⟨hlayer, hpart⟩ := Bool.or_eq_false_iff.1 hlist
  rw [hlayer]
  cases hgiven : p.givenIn layer with
  | none => exact rfl
  | some v =>
    have hv : v.isList = false := by
      rw [hgiven] at hpart
      exact hpart
    refine (Part.laid_some hp hs (Part.ordered_givenIn hl hgiven)).2 ⟨h.keys p hp v hgiven, ?_⟩
    intro f hf
    rw [← Part.entryIn_eq hgiven, hnone p hp f hf, hv]
    exact rfl

/-! ## Text -/

/-- Whether a text in the format of a name is this layer. -/
def IsLayer (content format : String) (layer : Json) : Prop :=
  ∃ f, LayerFormat.ofName? format = some f ∧ readLayer f content = .ok layer

theorem Loader.withText_eq_ok {l l' : Loader} {content format : String} : l.withText content format = .ok l' ↔
    ∃ layer, IsLayer content format layer ∧
      ∃ s, ApiSettings.ofJson? (l.settings.toJson.overlay layer) = some s ∧ l' = { l with settings := s } := by
  unfold Loader.withText IsLayer
  cases hf : LayerFormat.ofName? format with
  | none => simp
  | some f =>
    constructor
    · intro h
      obtain ⟨layer, hlayer, h⟩ := bind_eq_ok.1 h
      exact ⟨layer, ⟨f, rfl, hlayer⟩, Loader.withLayer_eq_ok.1 h⟩
    · rintro ⟨layer, ⟨f', ⟨⟩, hlayer⟩, h⟩
      exact bind_eq_ok.2 ⟨layer, hlayer, Loader.withLayer_eq_ok.2 h⟩

theorem IsLayer.unique {content format : String} {layer layer' : Json} (h : IsLayer content format layer)
    (h' : IsLayer content format layer') : layer' = layer := by
  obtain ⟨f, hf, hlayer⟩ := h
  obtain ⟨f', hf', hlayer'⟩ := h'
  rw [hf] at hf'
  cases hf'
  rw [hlayer] at hlayer'
  cases hlayer'
  rfl

theorem readLayer_eq_ok {f : LayerFormat} {content : String} : readLayer f content = .ok layer ↔
    (match f with
      | .toml => Toml.parse? content
      | .json => Json.parse? content) = some layer := by
  cases f with
  | toml =>
    simp only [readLayer]
    cases Toml.parse? content <;> simp
  | json =>
    simp only [readLayer]
    cases Json.parse? content <;> simp

theorem IsLayer.ordered {content format : String} (h : IsLayer content format layer) : layer.Ordered := by
  obtain ⟨f, -, hlayer⟩ := h
  have hparse := readLayer_eq_ok.1 hlayer
  cases f with
  | toml => exact Toml.ordered_of_parse? hparse
  | json => exact Json.ordered_of_parse? hparse

/-- Laying text over the settings that any steps of loading come to. It succeeds exactly if the text is a layer that
fits. What the layer mentions then has the layer's value. What it does not mention is as it was, unless the layer, or
what it has for the section, is a list: then it is as it is by default. A layer that mentions nothing and has no such
lists changes nothing. -/
theorem layer_over_settings (env : Environment) (steps : List Step) (x : Loading)
    (hrun : ({ env := env } : Loading).run steps = .ok x) (content format : String) :
    ((∃ l, x.loader.withText content format = .ok l) ↔ ∃ layer, IsLayer content format layer ∧ Fits layer) ∧
    ∀ layer l, IsLayer content format layer → x.loader.withText content format = .ok l →
      l.envPrefix = x.loader.envPrefix ∧
      (∀ p ∈ parts, ∀ f ∈ p.record.fields,
        (∀ v, p.entryIn f layer = some v → f.read v = some (f.get (p.get l.settings))) ∧
        (p.entryIn f layer = none → f.get (p.get l.settings) =
          if p.replacedBy layer then f.absent else f.get (p.get x.loader.settings))) ∧
      ((∀ p ∈ parts, p.replacedBy layer = false) → (∀ p ∈ parts, ∀ f ∈ p.record.fields, p.entryIn f layer = none) →
        l = x.loader) := by
  have hs : x.loader.settings.Trimmed := Loading.trimmed_of_run hrun
  constructor
  · constructor
    · rintro ⟨l, hl⟩
      obtain ⟨layer, hlayer, s, h, -⟩ := Loader.withText_eq_ok.1 hl
      exact ⟨layer, hlayer, (layered_of_overlay hs hlayer.ordered h).1⟩
    · rintro ⟨layer, hlayer, hfits⟩
      obtain ⟨s, h⟩ := exists_overlay_of_fits hs hlayer.ordered hfits
      exact ⟨_, Loader.withText_eq_ok.2 ⟨layer, hlayer, s, h, rfl⟩⟩
  · intro layer l hlayer hl
    obtain ⟨layer', hlayer', s, h, rfl⟩ := Loader.withText_eq_ok.1 hl
    obtain rfl := hlayer.unique hlayer'
    obtain ⟨hfits, hlayered⟩ := layered_of_overlay hs hlayer.ordered h
    refine ⟨rfl, ?_, ?_⟩
    · intro p hp f hf
      exact Field.takes_iff.1 (hlayered p hp f hf)
    · intro hlists hnone
      rw [overlay_eq_self_of_unmentioned hs hlayer.ordered hfits hlists hnone] at h
      cases h
      rfl

def sampleLayer : String :=
  "[logging]\nlevel = \"warn\"\n[authorization]\nglobal_service_account_namespaces = [\" shared \"]"

/-- Over the preset for development: the address stays, and the level and the namespaces are the layer's. -/
theorem layer_over_development :
    ∃ x l, ({ env := [] } : Loading).run [.development] = .ok x ∧ x.loader.withText sampleLayer "toml" = .ok l ∧
      l.settings.server.httpAddr = "127.0.0.1:8080" ∧ l.settings.logging.level = "warn" ∧
      l.settings.authorization.globalNamespaces = ["shared"] := by
  let layer : Json := .obj
    [("authorization", .obj [("global_service_account_namespaces", .arr [.str " shared "])]),
      ("logging", .obj [("level", .str "warn")])]
  let x : Loading := { loader := { settings := .development }, env := [] }
  let s : ApiSettings :=
    { ApiSettings.development with
      authorization := ⟨true, ["shared"]⟩
      logging := { ApiSettings.development.logging with level := "warn" } }
  have hrun : ({ env := [] } : Loading).run [.development] = .ok x := rfl
  have hlayer : IsLayer sampleLayer "toml" layer :=
    ⟨.toml, by decide +kernel, readLayer_eq_ok.2 (by decide +kernel)⟩
  have hl : x.loader.withText sampleLayer "toml" = .ok { x.loader with settings := s } :=
    Loader.withText_eq_ok.2 ⟨layer, hlayer, s, by decide +kernel, rfl⟩
  obtain ⟨-, hfields, -⟩ := (layer_over_settings [] [.development] x hrun sampleLayer "toml").2 layer _ hlayer hl
  obtain ⟨-, haddress⟩ := hfields serverPart (by simp [parts]) addressField (List.mem_cons_self ..)
  obtain ⟨hlevel, -⟩ := hfields loggingPart (by simp [parts]) levelField
    (List.mem_cons_of_mem _ (List.mem_cons_self ..))
  obtain ⟨hnames, -⟩ := hfields authorizationPart (by simp [parts]) namesField
    (List.mem_cons_of_mem _ (List.mem_cons_self ..))
  have haddress : s.server.httpAddr = "127.0.0.1:8080" := haddress (by decide +kernel)
  have hlevel : some "warn" = some s.logging.level := hlevel (.str "warn") (by decide +kernel)
  have hread : (Json.asStrings? (.arr [.str " shared "])).map (List.map Text.trim) = some ["shared"] := by
    decide +kernel
  have hnames : some ["shared"] = some s.authorization.globalNamespaces :=
    hread.symm.trans (hnames (.arr [.str " shared "]) (by decide +kernel))
  exact ⟨x, _, hrun, hl, haddress, (Option.some.inj hlevel).symm, (Option.some.inj hnames).symm⟩

theorem Loading.run_text {x : Loading} {l : Loader} {content format : String}
    (h : x.loader.withText content format = .ok l) : x.run [.text content format] = .ok { x with loader := l } := by
  unfold Loading.run
  rw [List.foldlM_cons]
  exact bind_eq_ok.2 ⟨{ x with loader := l }, map_eq_ok.2 ⟨l, h, rfl⟩, rfl⟩

/-- A layer with another address. -/
def addressLayer : String :=
  "\x7b\"server\": \x7b\"http_addr\": \"127.0.0.1:9000\"\x7d\x7d"

/-- A layer that mentions no setting. -/
def emptyListLayer : String :=
  "\x7b\"server\": []\x7d"

/-- The address is lost to a layer that does not mention it. -/
theorem empty_list_resets_address :
    ∃ x l layer, ({ env := [] } : Loading).run [.text addressLayer "json"] = .ok x ∧
      IsLayer emptyListLayer "json" layer ∧ (∀ p ∈ parts, ∀ f ∈ p.record.fields, p.entryIn f layer = none) ∧
      x.loader.withText emptyListLayer "json" = .ok l ∧
      x.loader.settings.server.httpAddr = "127.0.0.1:9000" ∧ l.settings.server.httpAddr = "0.0.0.0:8080" := by
  let s : ApiSettings := { server := ⟨"127.0.0.1:9000"⟩ }
  have haddress : IsLayer addressLayer "json" (.obj [("server", .obj [("http_addr", .str "127.0.0.1:9000")])]) :=
    ⟨.json, by decide +kernel, readLayer_eq_ok.2 (by cbv)⟩
  have hempty : IsLayer emptyListLayer "json" (.obj [("server", .arr [])]) :=
    ⟨.json, by decide +kernel, readLayer_eq_ok.2 (by cbv)⟩
  have htext : ({} : Loader).withText addressLayer "json" = .ok { settings := s } :=
    Loader.withText_eq_ok.2 ⟨_, haddress, s, by decide +kernel, rfl⟩
  have hreset : ({ settings := s } : Loader).withText emptyListLayer "json" = .ok {} :=
    Loader.withText_eq_ok.2 ⟨_, hempty, {}, by decide +kernel, rfl⟩
  have hnone : ∀ p ∈ parts, ∀ f ∈ p.record.fields, p.entryIn f (.obj [("server", .arr [])]) = none := by
    have hgiven : ∀ p ∈ parts, p.givenIn (.obj [("server", .arr [])]) = none ∨
        p.givenIn (.obj [("server", .arr [])]) = some (.arr []) := by
      unfold parts
      simp only [List.forall_mem_cons]
      exact ⟨.inr rfl, .inl rfl, .inl rfl, .inl rfl, by simp⟩
    intro p hp f hf
    unfold Part.entryIn
    rcases hgiven p hp with h | h
    · rw [h, Option.bind_none]
    · rw [h, Option.bind_some, Json.entry?, List.zip_nil_right]
      rfl
  exact ⟨⟨{ settings := s }, []⟩, {}, _, Loading.run_text htext, hempty, hnone, hreset, rfl, rfl⟩

end AccessGate.Settings
