/-
Layers of settings. A layer is a document that is laid over the settings: sections merge, and every
other value that the layer has takes the place of the one before.
-/
import AccessGate.Json.Parser
import AccessGate.Settings.Basic
import AccessGate.Settings.Error
import AccessGate.Text.Case
import AccessGate.Toml.Document

namespace AccessGate

namespace Json

mutual

/-- The document with a layer over it. -/
def overlay (base : Json) : Json → Json
  | .obj layer => .obj (overlayMembers (base.asFields?.getD []) layer)
  | j => j

def overlayMembers (base : Assoc String Json) : List (String × Json) → Assoc String Json
  | [] => base
  | (k, v) :: rest =>
    let value := match base.get? k with
      | some old => overlay old v
      | none => v
    overlayMembers (base.insert k value) rest

end

end Json

namespace Settings

/-- The formats of layers. -/
inductive LayerFormat where
  | toml
  | json
deriving DecidableEq, Repr

/-- The format of a name, in letters of any case. -/
def LayerFormat.ofName? (name : String) : Option LayerFormat :=
  match Text.toLower name with
  | "toml" => some .toml
  | "json" => some .json
  | _ => none

/-- The document of a layer. -/
def readLayer (f : LayerFormat) (content : String) : Except LoadError Json :=
  match f with
  | .toml =>
    match Toml.parse? content with
    | some j => .ok j
    | none => .error .toml
  | .json =>
    match Json.parse? content with
    | some j => .ok j
    | none => .error .document

/-- The settings with a layer over them. -/
def ApiSettings.withLayer (s : ApiSettings) (layer : Json) : Except LoadError ApiSettings :=
  match ApiSettings.ofJson? (s.toJson.overlay layer) with
  | some s => .ok s
  | none => .error .document

end Settings

end AccessGate
