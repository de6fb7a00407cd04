/-
Settings from environment variables. A variable whose name is a prefix, two underscores, a section, two
underscores and a setting in capitals gives that setting; under the prefix there may be no other names.
All variables of the process are read as texts for this, also those that are not under the prefix: one
that is no text ends the program.
-/
import AccessGate.Settings.Basic
import AccessGate.Settings.Error
import AccessGate.Text.Split

namespace AccessGate.Settings

/-! ## The variables of a process -/

/-- A name or a value as the system keeps it: text, or bytes that are none. -/
inductive RawText where
  | text (s : String)
  | bytes (b : ByteArray) (noText : String.fromUTF8? b = none)

def RawText.text? : RawText → Option String
  | text s => some s
  | bytes .. => none

/-- The variables of a process, names with values. A name may be there more than once. -/
abbrev Environment := List (RawText × RawText)

namespace Environment

def ofTexts (vars : List (String × String)) : Environment :=
  vars.map fun var => (.text var.1, .text var.2)

/-- The variables of bindings, of which the last for a name counts. -/
def ofBindings (bs : List (String × String)) : Environment :=
  ofTexts (Assoc.ofBindings bs)

/-- All variables as texts, if each of them is. -/
def texts? (env : Environment) : Option (List (String × String)) :=
  env.mapM fun var => do
    let name ← var.1.text?
    let value ← var.2.text?
    some (name, value)

/-- The value of the first variable of a name, if it is text. -/
def value? (env : Environment) (name : String) : Option String :=
  (env.find? fun var => var.1.text? = some name).bind fun var => var.2.text?

/-- Whether the system takes a variable. -/
def isSettable (name value : String) : Bool :=
  name ≠ "" && !(name.contains '=' || name.contains '\x00' || value.contains '\x00')

/-- The environment with a value for a name, in the place of the first variable of that name or else at the end. -/
def set (env : Environment) (name value : String) : Except LoadError Environment :=
  if isSettable name value then
    .ok (match env.findIdx? fun var => var.1.text? = some name with
      | some i => List.set env i (.text name, .text value)
      | none => env ++ [(.text name, .text value)])
  else .error .panicked

end Environment

/-! ## Settings of variables -/

/-- A truth value in one of the usual spellings. -/
def truthOf (value : String) : Except String Bool :=
  let s := Text.toLower value
  if ["true", "1", "yes", "on"].contains s then .ok true
  else if ["false", "0", "no", "off"].contains s then .ok false
  else .error "expected boolean"

def formatOf (value : String) : Except String Telemetry.LogFormat :=
  match Telemetry.LogFormat.ofName? (Text.toLower value) with
  | some f => .ok f
  | none => .error "expected 'json' or 'pretty'"

/-- The names in a list with commas, without blanks around them; blank ones are dropped. -/
def namesOf (value : String) : List String :=
  ((Text.splitOn ',' value).map Text.trim).filter (· ≠ "")

/-- Gives a setting, named by section and key, the value of a variable. -/
def assign (name : List String) (value : String) (s : ApiSettings) : Except String ApiSettings :=
  match name with
  | ["SERVER", "HTTP_ADDR"] => .ok { s with server := { s.server with httpAddr := value } }
  | ["AUTHORIZATION", "SKIP_AUTHORIZATION"] =>
    (truthOf value).map fun b => { s with authorization := { s.authorization with skipAuthorization := b } }
  | ["AUTHORIZATION", "GLOBAL_SERVICE_ACCOUNT_NAMESPACES"] =>
    .ok { s with authorization := { s.authorization with globalNamespaces := namesOf value } }
  | ["LOGGING", "ENABLED"] =>
    (truthOf value).map fun b => { s with logging := { s.logging with enabled := b } }
  | ["LOGGING", "LEVEL"] => .ok { s with logging := { s.logging with level := value } }
  | ["LOGGING", "FORMAT"] =>
    (formatOf value).map fun f => { s with logging := { s.logging with format := f } }
  | ["LOGGING", "SPAN_EVENTS"] =>
    (truthOf value).map fun b => { s with logging := { s.logging with spanEvents := b } }
  | ["LOGGING", "FILE_LINE_INFO"] =>
    (truthOf value).map fun b => { s with logging := { s.logging with fileLineInfo := b } }
  | ["METRICS", "ENABLED"] =>
    (truthOf value).map fun b => { s with metrics := { s.metrics with enabled := b } }
  | _ => .error "unknown configuration key"

/-- The name of a variable after the prefix and two underscores. -/
def settingName? (pre name : String) : Option (List String) :=
  (Text.dropStart? (pre ++ "__").toList name.toList).map fun rest =>
    Text.splitOnMark "__" (String.ofList rest)

/-- Applies one variable. Its name has to have the prefix. -/
def applyVariable (pre : String) (s : ApiSettings) (var : String × String) : Except LoadError ApiSettings :=
  match settingName? pre var.1 with
  | none => .error (.environment var.1 "invalid key format")
  | some name =>
    match assign name var.2 s with
    | .ok s => .ok s
    | .error reason => .error (.environment var.1 reason)

/-- Whether a variable comes before another or with it: by name, and by value where the names are the same. -/
def precedes (a b : String × String) : Bool :=
  ((compare a.1 b.1).then (compare a.2 b.2)).isLE

/-- The variables with a prefix in the order of their names, in whatever order all of them are listed. -/
def underPrefix (pre : String) (vars : List (String × String)) : List (String × String) :=
  (vars.filter fun var => (settingName? pre var.1).isSome).mergeSort precedes

/-- Applies the variables with a prefix in the order of their names. -/
def applyVariables (pre : String) (vars : List (String × String)) (s : ApiSettings) : Except LoadError ApiSettings :=
  (underPrefix pre vars).foldlM (applyVariable pre) s

/-- Reads the variables of a process and applies those with a prefix. -/
def applyEnvironment (pre : String) (env : Environment) (s : ApiSettings) : Except LoadError ApiSettings :=
  match env.texts? with
  | none => .error .panicked
  | some vars => applyVariables pre vars s

end AccessGate.Settings
