/-
Schemes: which group, version and kind a type stands for. The descriptor of a type is always derived
from its registration. A type of lists has the descriptor of its items: the ending `List` is taken off
its kind.
-/
import AccessGate.Descriptor.Basic
import AccessGate.Descriptor.Plural
import AccessGate.Kind.Known

namespace AccessGate

/-- A type that can be registered: of single objects, or of lists of them. -/
inductive TypeTag where
  | single (name : String)
  | listOf (name : String)
deriving DecidableEq, Repr

/-- What a type stands for. -/
structure Registration where
  group : String
  version : String
  kind : String
  isList : Bool
deriving DecidableEq, Repr

/-- The registered types, each once. -/
abbrev Scheme := List (TypeTag × Registration)

namespace Scheme

/-- Registers a type, replacing what it was registered as. -/
def registerAs (s : Scheme) (t : TypeTag) (r : Registration) : Scheme :=
  (t, r) :: List.filter (fun b => decide (b.1 ≠ t)) s

def kindOf? (s : Scheme) (t : TypeTag) : Option Registration :=
  List.lookup t s

/-- Registers a kind and the lists of it. -/
def register (s : Scheme) (k : Kind) : Scheme :=
  (s.registerAs (.single k.kind) ⟨k.group, k.version, k.kind, false⟩).registerAs (.listOf k.kind)
    ⟨k.group, k.version, k.kind ++ "List", true⟩

/-- The kinds of the cluster that roles may refer to. -/
def ofCluster : Scheme :=
  Kind.clusterKinds.foldl register []

end Scheme

/-- Plural names that do not follow the rules, by group and kind. -/
abbrev PluralOverrides := List ((String × String) × String)

/-- How types become descriptors. -/
structure Resolver where
  scheme : Scheme
  overrides : PluralOverrides := []
deriving Repr

namespace Resolver

/-- The text without an ending, if it has it. -/
def withoutEnding (ending s : String) : String :=
  match Text.dropStart? ending.toList.reverse s.toList.reverse with
  | some rest => String.ofList rest.reverse
  | none => s

/-- The plural name of a kind; of overrides for the same kind the last counts. -/
def pluralOf (r : Resolver) (group kind : String) : String :=
  match r.overrides.reverse.lookup (group, kind) with
  | some p => p
  | none => Descriptor.plural kind

/-- The descriptor of a registered type. -/
def descriptor? (r : Resolver) (t : TypeTag) : Option Descriptor :=
  (r.scheme.kindOf? t).map fun x =>
    let kind := if x.isList then withoutEnding "List" x.kind else x.kind
    { group := x.group, version := x.version, kind, resource := r.pluralOf x.group kind }

end Resolver

end AccessGate
