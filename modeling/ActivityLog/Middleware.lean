import ActivityLog.Core.Structured
import ActivityLog.Host.Request
import ActivityLog.Pipeline

/-!
# The middleware of a web application

The middleware stands between server and application. It starts the log of each request before the application is
called, and completes it after the response has been sent, or with a bare server error when the application fails
before it responds. `serve` is one request, with the application given as data.
-/

namespace ActivityLog

/-- What an application does with a request. -/
structure Endpoint where
  /-- Fails before it responds. -/
  refusal : Option Failure := none
  status : Int := 200
  headers : List (String × String) := []
  body : List String := [""]
  /-- Fails instead of sending the chunk with this number. -/
  interruption : Option (Nat × Failure) := none

/-- What the server gets to see of a response. -/
structure Reply where
  status : Option Int := none
  body : String := ""
  failure : Option Failure := none

/-- A middleware. -/
structure Middleware where
  pipeline : Nat
  enabled : Bool

/-- What a failure becomes where it leaves a computation that can be suspended: the end of an iteration means something
else there, and is not passed on as it is. -/
def Failure.leaving (computation ending : String) : Failure → Failure
  | .fault (.other kind) text =>
    if kind = ending then .fault .runtime (computation ++ " raised " ++ ending) else .fault (.other kind) text
  | f => f

/-- What a failure becomes where it leaves a call that can be suspended. -/
def Failure.leavingCall : Failure → Failure := .leaving "coroutine" "StopIteration"

/-- What a failure becomes where it leaves a stream of chunks. -/
def Failure.leavingStream : Failure → Failure := .leaving "async generator" "StopAsyncIteration"

namespace Endpoint

/-- The application as its caller finds it: its failures leave a call. -/
def asCalled (e : Endpoint) : Endpoint :=
  { e with
    refusal := e.refusal.map (·.leavingCall)
    interruption := e.interruption.map fun i => (i.1, i.2.leavingCall) }

/-- The chunks that are sent, and the failure that ends them. -/
def chunks (e : Endpoint) : List String × Option Failure :=
  match e.interruption with
  | some (n, f) => if n < e.body.length then (e.body.take n, some f) else (e.body, none)
  | none => (e.body, none)

/-- The response as it starts, or the failure that comes before that: the application's own, or that of headers which
Latin-1 cannot write. Its body is still to come. -/
def response (e : Endpoint) : Except Failure Response :=
  match e.refusal with
  | some f => .error f
  | none => (Response.received e.status e.headers).map fun r => { r with body := none }

/-- Notes what the application finds on the request when it is called. -/
def called (request : Nat) : Act Unit := do
  let h ← Act.host request
  let w ← get
  let state := Host.stateValues h.state
  let stored (name : String) : Value := (state.lookup name).getD .null
  let names := (state.map Prod.fst).mergeSort fun a b => !decide (b < a)
  Act.note [.text "app", .dict [("record", stored "log_record"), ("stored", .list (names.map .text)),
    ("correlation_id", stored "correlation_id"), ("context", w.activeId.getD .null)]]

/-- Calls the application for its response. -/
def call (request : Nat) (e : Endpoint) : Act Response := do
  called request
  Act.ofExcept e.response

end Endpoint

namespace Middleware

variable (env : Surroundings)

/-- Makes the middleware of an application: settings first, then the core, unless one is given, then the pipeline. -/
def create (core : Option Nat) (config : Option FieldConfig) : Act Middleware := do
  let s ← Act.settings
  let core ← match core with
    | some c => pure c
    | none => StructuredCore.create env.resolve config
  let pipeline ← Pipeline.create env core config (.text s.network.level)
  let p ← Act.pipeline pipeline
  Act.diagnose [⟨.middleware, .info, "NetworkLoggingMiddleware initialized",
    [("enabled", .bool s.network.enabled), ("pre_fields", .int p.config.pre.length),
      ("post_fields", .int p.config.post.length)]⟩]
  return ⟨pipeline, s.network.enabled⟩

/-- Notes a message that leaves the middleware. -/
def message (kind : String) : Act Unit := Act.note [.text "response", .text kind]

/-- The fields that name a request. Its address may be unreadable. -/
def requestFields (r : WebRequest) : Except Failure (List (String × Value)) := do
  return [("method", .text r.method), ("path", .text (← r.address).pathAndQuery.1)]

/-- Sends a response: its start, the chunks that are not empty, and an empty one at the end. -/
def send (chunks : List String) : Act Unit := do
  message "http.response.start"
  (chunks.filter fun c => !c.isEmpty).forM fun _ => message "http.response.body"
  message "http.response.body"

/-- Calls the application past the middleware: every chunk is passed on as it is. -/
def passBy (request : Nat) (e : Endpoint) : Act Reply := do
  Endpoint.called request
  match e.response with
  | .error f => return { failure := some f }
  | .ok _ => do
    let (chunks, failure) := e.chunks
    message "http.response.start"
    chunks.forM fun _ => message "http.response.body"
    return ⟨some e.status, String.join chunks, failure⟩

/-- Completes the log of a request whose application failed before it responded. -/
def completeFailed (r : WebRequest) (stand : Nat) (f : Failure) : Act Unit := do
  let _ ← Handle.bindAt stand Response.serverError
  Handle.fire env stand
  let fields ← Act.ofExcept (requestFields r)
  Act.diagnose [⟨.middleware, .error, "request_failed_with_exception", fields ++ Diagnostic.failure f⟩]

/-- Runs what follows the response of a stand-in. -/
def finishResponse (stand : Nat) : Act Unit := do
  match (← Handle.standIn stand).background? with
  | some b => Handle.runBackground env stand b
  | none => pure ()

/-- Starts the log of a request; a failure of that is noted. -/
def arrive (m : Middleware) (r : WebRequest) (request stand : Nat) : Act Unit := do
  match ← Act.outcome (Pipeline.start env m.pipeline request stand) with
  | .ok _ => pure ()
  | .error f =>
    let fields ← Act.ofExcept (requestFields r)
    Act.diagnose [⟨.middleware, .error, "network_log_start_failed", fields ++ [("error", .text f.text)]⟩]

/-- What the middleware gives for what came next: a failure once more, or the response bound to its stand-in. -/
def answer (r : WebRequest) (stand : Nat) : Except Failure Response → Act (Option Nat × Response)
  | .error f => do
    completeFailed env r stand f
    throw f
  | .ok response => do
    let _ ← Handle.bindAt stand response
    return (some stand, { response with background := (← Handle.standIn stand).background? })

/-- Logs a request around what comes next, which gives a response or fails. The response is the same afterwards, but it
may have other work to follow it. Beside it stands the number of its stand-in, if the request is logged. -/
def dispatch (m : Middleware) (r : WebRequest) (request : Nat) (next : Act Response) : Act (Option Nat × Response) :=
  if m.enabled then do
    let stand ← Act.addHost (Host.ofHandle {})
    arrive env m r request stand
    answer env r stand (← Act.outcome next)
  else return (none, ← next)

/-- Calls the application and sends its response. What follows that may fail, too. -/
def forward (m : Middleware) (r : WebRequest) (request : Nat) (e : Endpoint) : Act Reply := do
  match ← Act.outcome (dispatch env m r request (e.call request)) with
  | .error f => return { failure := some f.leavingCall }
  | .ok (stand, response) => do
    let (chunks, failure) := e.chunks
    send chunks
    let reply : Reply := ⟨some response.status, String.join chunks, failure.map (·.leavingStream)⟩
    match ← Act.outcome (stand.forM (finishResponse env)) with
    | .ok () => return reply
    | .error g => return { reply with failure := some g.leavingCall }

/-- Serves a request. The context that is active afterwards is the one that was before. -/
def serve (m : Middleware) (r : WebRequest) (e : Endpoint) : Act Reply := do
  let request ← Act.addHost (← Act.ofExcept (r.toHost [] true))
  let e := e.asCalled
  let active := (← get).contexts.active
  let reply ← Act.outcome <|
    if r.kind = "http" then forward env m r request e else passBy request e
  modify fun w => { w with contexts := { w.contexts with active } }
  match reply with
  | .ok reply => return reply
  | .error f => return { failure := some f }

end Middleware

end ActivityLog
