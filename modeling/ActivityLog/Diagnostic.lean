import ActivityLog.Descriptor
import ActivityLog.Failure
import ActivityLog.Logging.Level

/-!
# Diagnostics

What the library itself has to say: an event with a level and fields, and the part it comes from.
-/

namespace ActivityLog

/-- The parts that speak. -/
inductive Origin where
  | context
  | defaults
  | resolution
  | pipeline
  | middleware
  deriving DecidableEq, Repr

/-- The name of a part. -/
def Origin.name : Origin → String
  | .context => "context"
  | .defaults => "defaults"
  | .resolution => "resolution"
  | .pipeline => "pipeline"
  | .middleware => "middleware"

/-- A diagnostic. -/
structure Diagnostic where
  origin : Origin
  level : Level
  event : String
  fields : List (String × Value)

namespace Diagnostic

/-- The fields that name a field of the record and a phase. -/
def fieldAndPhase (name : String) (phase : Phase) : List (String × Value) :=
  [("field", .text name), ("phase", .text phase.name)]

/-- The fields that describe a failure. -/
def failure (e : Failure) : List (String × Value) :=
  [("error", .text e.text), ("error_type", .text e.kindName)]

/-- A field could not be resolved. -/
def resolutionFailed (name : String) (phase : Phase) (e : Failure) : Diagnostic :=
  ⟨.resolution, .warning, "field_resolution_failed", fieldAndPhase name phase ++ failure e⟩

/-- The same, said of anything. -/
def failureNoted (name phase : Value) (error errorType : String) : Diagnostic :=
  ⟨.resolution, .warning, "field_resolution_failed",
    [("field", name), ("phase", phase), ("error", .text error), ("error_type", .text errorType)]⟩

/-- A mandatory field has no value and no default. -/
def fallingBack (name : String) (phase : Phase) : Diagnostic :=
  ⟨.defaults, .info, "falling_back_for_field", fieldAndPhase name phase⟩

/-- A mandatory field has no value, no default and no fallback. -/
def missingMandatory (name : String) (phase : Phase) : Diagnostic :=
  ⟨.resolution, .debug, "missing_mandatory_field", fieldAndPhase name phase⟩

/-- A host does not take a value. -/
def notWritable (name : Value) : Diagnostic :=
  ⟨.context, .debug, "context_field_not_writable", [("field", name)]⟩

/-- A host has no completion event. -/
def completionUnavailable : Diagnostic := ⟨.context, .debug, "completion_event_unavailable", []⟩

/-- A completion that nobody waited for. -/
def completionIgnored (state : Value) : Diagnostic :=
  ⟨.pipeline, .warning, "completion_ignored", [("state", state)]⟩

/-- A record was not handed over. -/
def emissionFailed (e : Failure) : Diagnostic :=
  ⟨.pipeline, .error, "network_log_emission_failed", failure e⟩

/-- The first half of a request's log failed. -/
def preResolutionFailed (e : Failure) : Diagnostic :=
  ⟨.pipeline, .error, "pre_resolution_failed", failure e⟩

/-- The log of a request did not start. -/
def startFailed (e : Failure) : Diagnostic :=
  ⟨.pipeline, .error, "network_log_start_failed", [("error", .text e.text)]⟩

end Diagnostic

end ActivityLog
