/-
The log lines of decisions. Each decision is a span with its verb, resource, namespace and name; within
it, denied reviews of accounts and the outcome are logged.
-/
import AccessGate.Decision
import AccessGate.Json.Record
import AccessGate.Telemetry.Filter
import AccessGate.Telemetry.Options

namespace AccessGate.Telemetry

/-- What is said at a place: a level, a message and fields. -/
structure LogEvent where
  level : Level
  message : String
  fields : List (String × String)
deriving DecidableEq, Repr

/-- A line of a log. -/
structure LogLine where
  event : LogEvent
  target : Option String
  /-- The members that are shown of the span that it is in. -/
  span : Option (List (String × String))
  /-- Whether the file and the line of the place are there. -/
  hasFile : Bool
deriving DecidableEq, Repr

def engineTarget : String := "kargo_authz::engine"

def spanName : String := "authz.decide"

/-- The span of decisions. -/
def decisionSpan : LogPlace :=
  ⟨true, spanName, engineTarget, .info, ["request_id", "verb", "resource", "namespace", "name"]⟩

/-- The identifier of a request. It is drawn anew for every request and not shown, so one of its form stands
for all. -/
def anyRequestId : String := "019a3c5e-7b2d-7f41-9c86-e0d4b51f2a73"

/-- The fields of a decision's span that say what is decided on. -/
def spanValues (o : Operation) : List (String × String) :=
  [("verb", o.verb.name), ("resource", o.descriptor.text), ("namespace", o.key.ns), ("name", o.key.name)]

/-- All fields of a decision's span, as filters see them. -/
def filteredValues (o : Operation) : List (String × String) :=
  ("request_id", anyRequestId) :: spanValues o

/-- The fields that are shown; the name of the span itself takes the place of the object's. -/
def shownValues (o : Operation) : List (String × String) :=
  (spanValues o).map fun f => if f.1 = "name" then (f.1, spanName) else f

def deniedEvent? (r : Review) : Option LogEvent :=
  match r.subject, r.fate with
  | .serviceAccount a, .answered (.forbidden reason) =>
    some ⟨.debug, "impersonated review denied", [("service_account", a.text), ("reason", reason)]⟩
  | _, _ => none

def outcomeEvent? : Verdict → Option LogEvent
  | .granted g => some ⟨.debug, "access allowed", [("basis", g.basis), ("grant", g.shown)]⟩
  | .refused (.internal m) =>
    some ⟨.warn, "access decision failed", [("error", ((AccessError.internal m).message?).getD "")]⟩
  | .refused e => some ⟨.info, "access denied", [("error", e.message?.getD "")]⟩
  | .pending => none

/-- What a decision says. -/
def decisionEvents (d : Decision) : List LogEvent :=
  d.reviews.filterMap deniedEvent? ++ (outcomeEvent? d.verdict).toList

/-- The place of an event of decisions. -/
def LogEvent.place (e : LogEvent) : LogPlace :=
  ⟨false, "", engineTarget, e.level, "message" :: e.fields.map Prod.fst⟩

/-- The log lines of a decision. -/
def decisionLines (l : LogOptions) (f : Filter) (o : Operation) (d : Decision) : List LogLine :=
  let inSpan := f.allowsSpan decisionSpan
  let within := if inSpan then f.levelWithin decisionSpan (filteredValues o) else .off
  let line (e : LogEvent) : LogLine :=
    ⟨e, if l.includeTarget then some engineTarget else none, if inSpan then some (shownValues o) else none,
      l.fileLineInfo⟩
  let mark (message : String) : List LogLine :=
    if l.spanEvents && inSpan then [line ⟨.info, message, []⟩] else []
  let events := (decisionEvents d).filter fun e => f.allowsEvent within e.place
  mark "new" ++ events.map line ++ mark "close"

namespace LogLine

def texts (fields : List (String × String)) : Json :=
  .object (fields.map fun f => (f.1, .str f.2))

def toJson (l : LogLine) : Json :=
  .object [("level", .str l.event.level.name), ("target", (l.target.map .str).getD .null),
    ("fields", texts (("message", l.event.message) :: l.event.fields)),
    ("span", (l.span.map texts).getD .null), ("file", .bool l.hasFile)]

end LogLine

end AccessGate.Telemetry
