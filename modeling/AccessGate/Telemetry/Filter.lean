/-
Filters of log lines. Directives without a span and without values of fields decide by the place that
logs: the most specific one that is about the place counts, and without any directive only errors pass.
A directive about a span opens its level to everything within such a span, and lets the span itself
pass.
-/
import AccessGate.Telemetry.Directive

namespace AccessGate.Telemetry

/-- A directive that decides by the place that logs. -/
structure PlaceRule where
  target : Option String
  fieldNames : List String
  level : Threshold
deriving DecidableEq, Repr

/-- A place that logs: an event, or a span. -/
structure LogPlace where
  isSpan : Bool
  name : String
  target : String
  level : Level
  fieldNames : List String
deriving DecidableEq, Repr

/-- A filter: rules by place, the most specific first, and directives about spans. -/
structure Filter where
  rules : List PlaceRule
  spans : List Directive
deriving Repr

/-- Whether a target, if there is one, is the start of a place's target. -/
def coversTarget (target : Option String) (p : LogPlace) : Bool :=
  match target with
  | none => true
  | some t => (Text.dropStart? t.toList p.target.toList).isSome

namespace PlaceRule

/-- The order of rules: longer targets first, then more fields, then the greater texts. -/
def precedes (r s : PlaceRule) : Bool :=
  let size (r : PlaceRule) : Option Nat := r.target.map String.utf8ByteSize
  ((compare (size s) (size r)).then
    ((compare s.fieldNames.length r.fieldNames.length).then
      ((compare s.target r.target).then (compare s.fieldNames r.fieldNames)))) != .gt

def isAbout (r : PlaceRule) (p : LogPlace) : Bool :=
  coversTarget r.target p && (p.isSpan || r.fieldNames.all p.fieldNames.contains)

end PlaceRule

namespace Directive

/-- Whether a directive names a span or fields. -/
def isAboutSpans (d : Directive) : Bool :=
  d.span.isSome || !d.fields.isEmpty

/-- The rule by place of a directive, if it names no span and no values. -/
def placeRule? (d : Directive) : Option PlaceRule :=
  if d.span.isSome || d.fields.any fun f => f.value.isSome then none
  else some ⟨d.target, d.fields.map FieldMatch.name, d.level⟩

/-- Whether a directive is about a span, its values aside. -/
def isAbout (d : Directive) (p : LogPlace) : Bool :=
  coversTarget d.target p && (d.span.all (· = p.name)) && d.fields.all fun f => p.fieldNames.contains f.name

/-- Whether the values of a span's fields are those that a directive asks for. -/
def fits (d : Directive) (values : List (String × String)) : Bool :=
  d.fields.all fun f =>
    match f.value with
    | none => true
    | some v => (values.lookup f.name).any v.fits

end Directive

/-- The members of a list of which no later one is the same in the given respect. -/
def lastOfEach {α β : Type} [DecidableEq β] (respect : α → β) : List α → List α
  | [] => []
  | a :: rest =>
    if rest.any fun b => respect b = respect a then lastOfEach respect rest else a :: lastOfEach respect rest

namespace Filter

def ofDirectives (ds : List Directive) : Filter :=
  let (spans, places) := ds.partition Directive.isAboutSpans
  let rules := (places ++ spans).filterMap Directive.placeRule?
  let rules := lastOfEach (fun r => (r.target, r.fieldNames)) rules
  let rules := if ds.isEmpty then [⟨none, [], .upTo .error⟩] else rules
  ⟨rules.mergeSort PlaceRule.precedes, lastOfEach (fun d => (d.target, d.span, d.fields)) spans⟩

/-- The level above which nothing passes, wherever it is. -/
def ceiling (f : Filter) : Threshold :=
  if f.spans.any fun d => d.fields.any fun m => m.value.isSome then .upTo .trace
  else ⟨((f.rules.map fun r => r.level.rank) ++ f.spans.map fun d => d.level.rank).foldl max 0⟩

/-- Whether the rules by place let a place pass. -/
def allowsPlace (f : Filter) (p : LogPlace) : Bool :=
  match f.rules.find? fun r => r.isAbout p with
  | some r => r.level.allows p.level
  | none => false

/-- Whether a span passes. -/
def allowsSpan (f : Filter) (p : LogPlace) : Bool :=
  f.ceiling.allows p.level && ((f.spans.any fun d => d.isAbout p) || f.allowsPlace p)

/-- The level that is open within a span with these values. -/
def levelWithin (f : Filter) (p : LogPlace) (values : List (String × String)) : Threshold :=
  ⟨((f.spans.filter fun d => d.isAbout p && d.fits values).map fun d => d.level.rank).foldl max 0⟩

/-- Whether an event passes where a level is open. -/
def allowsEvent (f : Filter) (within : Threshold) (p : LogPlace) : Bool :=
  f.ceiling.allows p.level && (within.allows p.level || f.allowsPlace p)

end Filter

end AccessGate.Telemetry
