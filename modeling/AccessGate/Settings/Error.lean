/-
How loading settings fails, and the one way in which it does not come back.
-/
namespace AccessGate.Settings

/-- How loading settings ends without settings. -/
inductive LoadError where
  | fileNotFound (path : String)
  | unreadable (path : String)
  /-- The text is no TOML document. -/
  | toml
  /-- The text is no JSON document, or a document does not fit the settings. -/
  | document
  | invalidValue (field reason : String)
  | environment (name reason : String)
  | invalid (message : String)
  /-- No error is given: the program ends, for a variable that cannot be read as text or cannot be set. -/
  | panicked
deriving DecidableEq, Repr

namespace LoadError

/-- The message, where it is not that of a parser. -/
def message? : LoadError → Option String
  | fileNotFound path => some ("configuration file not found: " ++ path)
  | unreadable path => some ("failed to read configuration file: " ++ path)
  | toml => none
  | document => none
  | invalidValue field reason => some ("invalid configuration value for " ++ field ++ ": " ++ reason)
  | environment name reason => some ("failed to parse environment variable " ++ name ++ ": " ++ reason)
  | invalid m => some ("configuration validation failed: " ++ m)
  | panicked => none

end LoadError

end AccessGate.Settings
