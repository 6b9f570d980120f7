import ActivityLog.Core

/-!
# The recording core

A core for trying pipelines out. It takes note of every call with its arguments, then fails if it has been told to
fail at that call, and otherwise does the least that the call asks for.
-/

namespace ActivityLog

namespace RecordingCore

/-- A list of names as a value. -/
def names (ns : List String) : Value := .list (ns.map .text)

/-- Notes a call of a core, and fails if that is asked for. -/
def enter (c : RecordingCore) (call : String) (arguments : List Value) : Act Unit := do
  Act.note (.text call :: arguments)
  match c.failures.get? call with
  | some f => throw f
  | none => pure ()

/-- The recording core with a number. -/
def toCore (id : Nat) (c : RecordingCore) : LoggingCore where
  initLog := do c.enter "init_log" []; return c.seed
  preFields := do c.enter "get_pre_log_config" []; return c.config.pre
  postFields := do c.enter "get_post_log_config" []; return c.config.post
  bindLogFunctions _ := c.enter "bind_log_functions" []
  writeStaticFields record w :=
    match (c.enter "write_static_fields" []).run.run w with
    | (.ok (), w) => (.ok (), record.insertAll c.overrides.entries, w)
    | (.error f, w) => (.error f, record, w)
  sendLog level record := c.enter "send_log" [level, .dict record.entries, names record.keys]
  setLoggingLevel level := c.enter "set_logging_level" [level]
  setLogPattern pattern := c.enter "set_log_pattern" [pattern]
  overrideField name value := do
    c.enter "override_field" [.text name, value]
    Act.setCore id (.recording { c with overrides := c.overrides.insert name value })
    return true
  correlationObject := do c.enter "get_correlation_object" []; return .text "correlation-object"
  logMessage level message fields := do
    Act.ofExcept (refuseParameters "RecordingCore.log_message" ["self", "level", "message"] fields.keys)
    c.enter "log_message" [level, message, .dict fields.entries]

end RecordingCore

end ActivityLog
