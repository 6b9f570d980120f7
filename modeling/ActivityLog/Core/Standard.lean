import ActivityLog.Core.Recording
import ActivityLog.Core.Structured

/-!
# The cores of an application

The cores by number: each call goes to the kind of core that the number stands for, with the data it has at that time.
-/

namespace ActivityLog

/-- A core with the given data. -/
def CoreData.toCore (id : Nat) : CoreData → LoggingCore
  | .recording c => c.toCore id
  | .structured c => c.toCore id

/-- A core after the list of fields that it hands out for a phase has been emptied. A recording core hands out the list
that it keeps, a structured core a copy of it. -/
def CoreData.emptied (phase : Phase) : CoreData → CoreData
  | .recording c => .recording { c with config := match phase with
      | .pre => { c.config with pre := [] }
      | .post => { c.config with post := [] } }
  | .structured c => .structured c

namespace Standard

/-- A core as it is now. -/
def current (id : Nat) : Act LoggingCore := do return (← Act.core id).toCore id

/-- Has a core hand out the list of its fields for a phase, and empties that list. -/
def emptyFields (id : Nat) (phase : Phase) : Act Unit := do
  let c ← current id
  discard (match phase with
    | .pre => c.preFields
    | .post => c.postFields)
  Act.setCore id ((← Act.core id).emptied phase)

/-- The core with a number. -/
def core (id : Nat) : LoggingCore where
  initLog := do (← current id).initLog
  preFields := do (← current id).preFields
  postFields := do (← current id).postFields
  bindLogFunctions target := do (← current id).bindLogFunctions target
  writeStaticFields record w :=
    match w.cores.get? id with
    | some c => (c.toCore id).writeStaticFields record w
    | none => (.ok (), record, w)
  sendLog level record := do (← current id).sendLog level record
  setLoggingLevel level := do (← current id).setLoggingLevel level
  setLogPattern pattern := do (← current id).setLogPattern pattern
  overrideField name value := do (← current id).overrideField name value
  correlationObject := do (← current id).correlationObject
  logMessage level message fields := do (← current id).logMessage level message fields

end Standard

end ActivityLog
