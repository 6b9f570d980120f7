import ActivityLog.Json.Writer
import ActivityLog.Logging.Console
import ActivityLog.Logging.Level
import ActivityLog.Logging.Pattern
import ActivityLog.Text.Utf8

/-!
# Events

An event is a set of named values on its way to a line: bound values, the call's own fields, the event's name, then
what every line carries. `Event.complete` adds that, `Layout.render` writes the line.
-/

namespace ActivityLog

/-- The span of a trace that is being recorded. -/
structure Span where
  traceId : Nat
  spanId : Nat
  recording : Bool

namespace Event

/-- The time stamp of every line. -/
def timestamp : String := "2024-01-01T00:00:00Z"

/-- Adds a value under a name that is free. -/
def addMissing (event : Record) (name : String) (value : Value) : Record :=
  if event.contains name then event else event.insert name value

/-- Adds the correlation id of the active context to an event that has none. -/
def addCorrelation (active : Option Value) (event : Record) : Record :=
  match active with
  | some id => addMissing event "correlation_id" id
  | none => event

/-- Adds the ids of a span that is being recorded, where the event has none. -/
def addTrace (span : Option Span) (event : Record) : Record :=
  match span with
  | some s =>
    if s.recording then
      addMissing (addMissing event "trace_id" (.text (Text.hex 32 s.traceId))) "span_id" (.text (Text.hex 16 s.spanId))
    else event
  | none => event

/-- Bytes become text. -/
def decodeBytes (event : Record) : Record :=
  event.map fun
    | .bytes b => .text (Utf8.decodeLossy b)
    | v => v

/-- Adds the logger's name. A foreign log entry among the values gives its own. -/
def addLogger (logger : String) (event : Record) : Except Failure Record :=
  match event.value "_record" with
  | .null => .ok (event.insert "logger" (.text logger))
  | v =>
    match v.attr? "name" with
    | some name => .ok (event.insert "logger" name)
    | none => .error (.noAttribute v "name")

/-- What every line carries: logger, level and time stamp, no handles on exceptions and stacks, no bytes, the
correlation id and the trace. -/
def complete (logger : String) (level : Level) (active : Option Value) (span : Option Span) (event : Record) :
    Except Failure Record := do
  let event ← addLogger logger event
  let event := (event.insert "level" (.text level.name)).insert "timestamp" (.text timestamp)
  let event := decodeBytes ((event.erase "stack_info").erase "exc_info")
  return addTrace span (addCorrelation active event)

/-- What an event carries before logging is configured: level and time stamp, no handles on exceptions and stacks. -/
def completePlainly (level : Level) (event : Record) : Record :=
  let event := if (event.value "stack_info").truthy then event.insert "stack" (.text "") else event
  ((event.erase "stack_info").erase "exc_info").insertAll
    [("level", .text level.name), ("timestamp", .text timestamp)]

/-- The event of a call: bound values, then the call's fields, then the event's name, which may be absent. -/
def assemble (bound fields : Record) (event : Value) : Record :=
  let all := bound.insertAll fields.entries
  if event.isNull then all else all.insert "event" event

end Event

/-- How lines are written: after a pattern, for the console, or as JSON. Both are kept as they were given. -/
structure Layout where
  format : Value
  pattern : Value := .null

namespace Layout

/-- Whether lines are written for the console. -/
def isConsole (layout : Layout) : Bool :=
  match layout.format with
  | .text s => s == "console"
  | _ => false

/-- The line of an event: after the pattern if there is one, or else as the format says. -/
def render (layout : Layout) (event : Record) : Except Failure String :=
  if layout.pattern.truthy then Pattern.fill layout.pattern event
  else if layout.isConsole then Console.render event
  else Json.line event

end Layout

end ActivityLog
