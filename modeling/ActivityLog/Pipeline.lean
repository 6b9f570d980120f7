import ActivityLog.Lifecycle

/-!
# Pipelines

A pipeline logs the requests of an application with one core and one field configuration. `start` is the arrival of a
request; `handle` starts and then calls what comes next, whatever happened before.
-/

namespace ActivityLog

namespace Pipeline

variable (env : Surroundings)

/-- The level that records are logged with when no other is given. -/
def defaultLevel : Value := .text "info"

/-- Makes a pipeline. Without fields of its own it asks the core for them, once. -/
def create (core : Nat) (config : Option FieldConfig) (level : Value := defaultLevel) : Act Nat := do
  let config ← match config with
    | some c => pure c
    | none => do
      let pre ← (env.core core).preFields
      let post ← (env.core core).postFields
      pure ⟨pre, post⟩
  Act.addPipeline ⟨core, config, level⟩

/-- The part of a request's arrival whose failures are noted: the fields of arrival, the record on the request, the
core's helpers. -/
def arrive (id : Nat) : Act Unit := do
  Lifecycle.resolvePre env id
  let l ← Act.lifecycle id
  Act.writeField l.request.target recordField (.shared (.record id) false)
  let p ← Act.pipeline l.pipeline
  (env.core p.core).bindLogFunctions l.request.target

/-- The arrival of a request seen through adapters: the number of its log, which waits for completion. -/
def startWith (pipeline : Nat) (request response : Adapter) : Act Nat := do
  let p ← Act.pipeline pipeline
  let record ← (env.core p.core).initLog
  let id ← Act.addLifecycle ⟨pipeline, request, response, record, .created⟩
  match ← Act.outcome (arrive env id) with
  | .ok () => pure ()
  | .error f => Act.diagnose [.preResolutionFailed f]
  let _ ← Lifecycle.awaitCompletion id
  return id

/-- The arrival of a request. -/
def start (pipeline request response : Nat) : Act Nat := do
  let request ← Act.adapter request
  let response ← Act.adapter response
  startWith env pipeline request response

/-- Starts a request's log, then calls what comes next. -/
def handle {α : Type} (pipeline request response : Nat) (next : Act α) : Act α := do
  match ← Act.outcome (start env pipeline request response) with
  | .ok _ => pure ()
  | .error f => Act.diagnose [.startFailed f]
  next

end Pipeline

namespace Handle

variable (env : Surroundings)

/-- Tells one listener of a completion, with the event's arguments. -/
def notify (arguments : List Value) : Listener → Act Unit
  | .lifecycle id => Lifecycle.complete env id
  | .observer tag => Act.note [.text "listener", .text tag, .list arguments]
  | .other v => throw (.notCallable v)

/-- The stand-in at a host. -/
def standIn (id : Nat) : Act Handle := do
  let host ← Act.host id
  match host.nature with
  | .handle h => return h
  | _ => throw (.noAttribute host.toValue "bind")

/-- Replaces the stand-in at a host. -/
def put (id : Nat) (h : Handle) : Act Unit := do
  Act.setHost id { (← Act.host id) with nature := .handle h }

/-- Fails if a method of a stand-in has been replaced by something else. -/
def demandMethod (id : Nat) (name : String) : Act Unit := do
  match (← Act.host id).attributes.get? name with
  | some (.value v) => throw (.notCallable v)
  | _ => pure ()

/-- The listeners that something else stands for which was put in their place: what a walk through it gives. -/
def listenersOf : Value → Except Failure (List Listener)
  | .text s => .ok ((Value.letters s).map .other)
  | .dict entries => .ok (entries.map fun e => .other (.text e.1))
  | .bytes b => .ok (b.map fun n => .other (.int n.toNat))
  | v => .error (.fault .type ("'" ++ v.qualifiedTypeName ++ "' object is not iterable"))

/-- Takes out all who wait. -/
def dismiss (id : Nat) : Act (List Listener) := do
  let (listeners, stand) := (← standIn id).release
  let h ← Act.host id
  Act.setHost id { h with nature := .handle stand, attributes := h.attributes.erase "_listeners" }
  match h.attributes.get? "_listeners" with
  | some (.value v) => Act.ofExcept (listenersOf v)
  | _ => return listeners

/-- Tells all who wait, each once. They are taken out before the first is told. -/
def fire (id : Nat) : Act Unit := do
  demandMethod id "fire_completion"
  let listeners ← dismiss id
  listeners.forM (notify env [])

/-- The work that follows a response once listeners wait for it. -/
def completion (h : Host) (inner : Option Background) : Background :=
  match h.attributes.get? "_after_response" with
  | some _ => .failing (.fault .type "the first argument must be callable")
  | none => .completion inner

/-- Attaches a response; whether its background now tells listeners. -/
def bindAt (id : Nat) (r : Response) : Act Bool := do
  demandMethod id "bind"
  let h ← Act.host id
  let stand ← standIn id
  let waiting := match h.attributes.get? "_listeners" with
    | some (.value v) => v.truthy
    | _ => !stand.listeners.isEmpty
  let background := if waiting then some (completion h r.background) else r.background
  put id { stand with response := some (.response { r with background }) }
  return waiting

/-- Runs the work that follows a response. -/
def runBackground (id : Nat) : Background → Act Unit
  | .task text => Act.note [.text "background", .text text]
  | .completion none => fire env id
  | .completion (some inner) => do
    fire env id
    runBackground id inner
  | .failing f => throw f

end Handle

namespace Host

/-- Tells the callbacks of an event, in the order of registration; how many there were. -/
def fireAt (env : Surroundings) (id : Nat) (event : String) (arguments : List Value) : Act Nat := do
  let callbacks := (← Act.host id).callbacks event
  callbacks.forM (Handle.notify env arguments)
  return callbacks.length

end Host

end ActivityLog
