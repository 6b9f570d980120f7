import ActivityLog.Core
import ActivityLog.Pass

/-!
# The log of one request

A request's log walks from `created` to `emitted`. On arrival the pre fields are resolved into its record; then it
waits for the response's completion. The first completion resolves the post fields and hands the record to the core;
whatever fails on the way is noted, and the log is `emitted` afterwards in any case. Completions at any other time are
only noted.
-/

namespace ActivityLog

/-- Where downstream code finds the record. -/
def recordField : String := "log_record"

/-- What the passes of a request read and call: the request in the pre phase, the response in the post phase. While a
log's record is being filled, the functions find it in the log. -/
def Surroundings.surface (env : Surroundings) (request response : Adapter) (log : Option Nat) : Surface World :=
  let adapter : Phase → Adapter
    | .pre => request
    | .post => response
  { header := fun phase name w =>
      let a := adapter phase
      let host := a.looked (w.hostOf a.target)
      (a.readHeader host name, { w with hosts := w.hosts.set a.target host })
    field := fun phase name w =>
      let target := (adapter phase).target
      let host := (w.hostOf target).seen name
      (host.readField name, { w with hosts := w.hosts.set target host })
    call := fun f record w =>
      env.call ⟨request.target, response.target, log⟩ f record (match log with
        | some id => w.withRecord id record
        | none => w)
    heard := fun w => (w.diagnostics, { w with diagnostics := [] }) }

namespace Lifecycle

variable (env : Surroundings)

/-- Runs the pass of a phase on a log's record. -/
def runPass (id : Nat) (phase : Phase) (config : FieldConfig) (l : Lifecycle) : Act Lifecycle := do
  let surface := env.surface l.request l.response (some id)
  let result := resolvePass surface phase (config.phase phase) l.record (← get)
  set result.state
  Act.diagnose result.notes
  return { l with record := result.record }

/-- Resolves the fields of arrival. -/
def resolvePre (id : Nat) : Act Unit := do
  let l ← Act.lifecycle id
  let p ← Act.pipeline l.pipeline
  let l ← l.runPass env id .pre p.config
  Act.setLifecycle id { l with state := .preResolved }

/-- Registers for the response's completion; whether there is one to wait for. -/
def awaitCompletion (id : Nat) : Act Bool := do
  let l ← Act.lifecycle id
  let registered ← Act.onCompletion l.response (.lifecycle id)
  let l ← Act.lifecycle id
  Act.setLifecycle id { l with state := .awaitingCompletion }
  return registered

/-- Overrides a record's fields and hands it to the core. The record is kept as it stands even if this fails; the log
that it belongs to, if it belongs to one, has it before the core gets it. -/
def emit (p : Pipeline) (log : Option Nat) (record : Record) : StateM World (Except Failure Unit × Record) := do
  let (result, record, w) := (env.core p.core).writeStaticFields record (← get)
  set (match log with
    | some id => w.withRecord id record
    | none => w)
  match result with
  | .error f => return (.error f, record)
  | .ok () => return (← ((env.core p.core).sendLog p.level record).run, record)

/-- The second half of the log: the fields of completion, then emission. A failure is noted, no more. -/
def finish (id : Nat) : Act Unit := do
  let l ← Act.lifecycle id
  let p ← Act.pipeline l.pipeline
  let l ← l.runPass env id .post p.config
  Act.setLifecycle id { l with state := .postResolved }
  let (result, record) ← (emit env p (some id) l.record : StateM World _)
  Act.setLifecycle id { l with record, state := .emitted }
  match result with
  | .ok () => pure ()
  | .error f => Act.diagnose [.emissionFailed f]

/-- The completion of the response. Afterwards the request carries a read-only view of the record; only storing that
may fail. -/
def complete (id : Nat) : Act Unit := do
  let l ← Act.lifecycle id
  if l.state = .awaitingCompletion then
    finish env id
    Act.writeField l.request.target recordField (.shared (.record id) true)
  else Act.diagnose [.completionIgnored (.text l.state.name)]

/-- Sets a field of the record from outside; whether it could be. Once the log is emitted its record is read-only. -/
def setRecord (id : Nat) (name : String) (value : Value) : Act Bool := do
  let l ← Act.lifecycle id
  if l.state = .emitted then return false
  else do
    Act.setLifecycle id { l with record := l.record.insert name value }
    return true

end Lifecycle

end ActivityLog
