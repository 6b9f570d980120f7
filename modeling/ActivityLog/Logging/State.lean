import ActivityLog.Logging.Event

/-!
# The state of logging

The shared logging configuration: recorded level, format and pattern, and the threshold in force. A level that is no
threshold is refused, but an existing configuration has by then recorded what it was given (`configure`, `setLevel`).
-/

namespace ActivityLog

/-- The shared configuration. -/
structure LoggingState where
  level : String
  layout : Layout
  threshold : Int

namespace LoggingState

/-- The names under which lines are seen. -/
def nameSpace : String := "netlog"

/-- Whether a logger belongs to the name space. -/
def covers (logger : String) : Bool := logger == nameSpace || (nameSpace ++ ".").toList.isPrefixOf logger.toList

/-- The threshold that applies: without one, that of `info`. -/
def effective (s : LoggingState) : Int := if s.threshold = 0 then Level.info.number else s.threshold

/-- Whether lines of a level are written. -/
def enabled (s : LoggingState) (level : Level) : Bool := decide (s.effective ≤ level.number)

/-- Builds the configuration or changes it: the state afterwards and whether a level was refused. -/
def configure (state : Option LoggingState) (level : String) (layout : Layout) :
    Option LoggingState × Except Failure Unit :=
  let level := Text.upper level
  match thresholdOf level, state with
  | .ok n, _ => (some ⟨level, layout, n⟩, .ok ())
  | .error e, some s => (some { s with level, layout }, .error e)
  | .error e, none => (none, .error e)

/-- Changes the level. -/
def setLevel (s : LoggingState) (level : String) : LoggingState × Except Failure Unit :=
  let level := Text.upper level
  match thresholdOf level with
  | .ok n => ({ s with level, threshold := n }, .ok ())
  | .error e => ({ s with level }, .error e)

/-- Changes the pattern; one that counts as false means none. -/
def setPattern (s : LoggingState) (pattern : Value) : LoggingState :=
  { s with layout.pattern := if pattern.truthy then pattern else .null }

/-- The name of a threshold as it is given: a text. -/
def levelName : Value → Except Failure String
  | .text s => .ok s
  | v => .error (.noAttribute v "upper")

/-- The layout of a configuration nobody asked for. -/
def defaultLayout : Layout := { format := .text "json" }

end LoggingState

end ActivityLog
