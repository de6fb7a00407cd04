/-
Loading settings step by step: presets, layers from text or files, then environment variables, then
validation.
-/
import AccessGate.Settings.DotEnv
import AccessGate.Settings.Layer
import AccessGate.Settings.Validation

namespace AccessGate.Settings

/-- What is found at the path of a file. -/
inductive FileState where
  | missing
  /-- It cannot be read as text. -/
  | unreadable
  | text (content : String)
deriving DecidableEq, Repr

/-- The state of a file that holds some bytes. -/
def FileState.ofBytes (b : ByteArray) : FileState :=
  match String.fromUTF8? b with
  | some s => .text s
  | none => .unreadable

/-- The ending of a file's name after its last point, if there is something before that point. -/
def fileExtension (path : String) : String :=
  let name := ((path.toList.reverse).takeWhile (· ≠ '/'))
  match name.dropWhile (· ≠ '.') with
  | [] | [_] => ""
  | _ => String.ofList (name.takeWhile (· ≠ '.')).reverse

/-- Settings while they are loaded, and the prefix of variables that are to override them. -/
structure Loader where
  settings : ApiSettings := {}
  envPrefix : Option String := none
deriving Repr

namespace Loader

def withDefaults (l : Loader) : Loader :=
  { l with settings := {} }

def withDevelopment (l : Loader) : Loader :=
  { l with settings := .development }

def withProduction (l : Loader) : Loader :=
  { l with settings := .production }

def withLayer (l : Loader) (layer : Json) : Except LoadError Loader :=
  (l.settings.withLayer layer).map fun s => { l with settings := s }

/-- Lays text in a named format over the settings. -/
def withText (l : Loader) (content format : String) : Except LoadError Loader :=
  match LayerFormat.ofName? format with
  | none => .error (.invalid ("unsupported configuration format: " ++ Text.toLower format))
  | some f => (readLayer f content).bind l.withLayer

/-- Lays a file, whose ending names its format, over the settings. -/
def withFile (l : Loader) (path : String) : FileState → Except LoadError Loader
  | .missing => .error (.fileNotFound path)
  | .unreadable => .error (.unreadable path)
  | .text content =>
    match LayerFormat.ofName? (fileExtension path) with
    | none => .error (.invalid ("unsupported configuration file format: " ++ path))
    | some f => (readLayer f content).bind l.withLayer

/-- As `withFile`, if the file is there. -/
def withOptionalFile (l : Loader) (path : String) (file : FileState) : Except LoadError Loader :=
  if file = .missing then .ok l else l.withFile path file

/-- Lets variables that start with a prefix, taken in capitals, override settings. -/
def withEnvPrefix (l : Loader) (pre : String) : Loader :=
  { l with envPrefix := some (Text.toUpper pre) }

/-- The settings after the variables of the process, if they are accepted. Without a prefix no variable is read. -/
def load (l : Loader) (env : Environment) : Except LoadError ApiSettings := do
  let s ← match l.envPrefix with
    | none => .ok l.settings
    | some pre => applyEnvironment pre env l.settings
  s.validate
  .ok s

end Loader

/-! ## Steps -/

/-- A step of loading. -/
inductive Step where
  | defaults
  | development
  | production
  | text (content format : String)
  | file (path : String) (state : FileState)
  | optionalFile (path : String) (state : FileState)
  | envPrefix (pre : String)
  /-- Variables of a `.env` file join those of the process. -/
  | dotEnv (content : String)
deriving DecidableEq, Repr

/-- A loader, and the variables of the process that it runs in. -/
structure Loading where
  loader : Loader := {}
  env : Environment

namespace Loading

def step (x : Loading) : Step → Except LoadError Loading
  | .defaults => .ok { x with loader := x.loader.withDefaults }
  | .development => .ok { x with loader := x.loader.withDevelopment }
  | .production => .ok { x with loader := x.loader.withProduction }
  | .text content format => (x.loader.withText content format).map fun l => { x with loader := l }
  | .file path state => (x.loader.withFile path state).map fun l => { x with loader := l }
  | .optionalFile path state => (x.loader.withOptionalFile path state).map fun l => { x with loader := l }
  | .envPrefix pre => .ok { x with loader := x.loader.withEnvPrefix pre }
  | .dotEnv content => (DotEnv.load content x.env).map fun env => { x with env }

/-- Takes steps one after the other, up to the first that fails. -/
def run (x : Loading) (steps : List Step) : Except LoadError Loading :=
  steps.foldlM step x

/-- The settings at the end, if they are accepted. -/
def load (x : Loading) : Except LoadError ApiSettings :=
  x.loader.load x.env

end Loading

end AccessGate.Settings
