import ActivityLog.Builtin.Fields
import ActivityLog.Core
import ActivityLog.Descriptor.File

/-!
# The structured core

The core that writes records and messages as log lines. It is made from the settings: it configures logging, and takes
its fields from where it is told, else from the file that the settings name, else the built-in ones. For each request
it starts a context with the record's correlation id and puts it on the request.
-/

namespace ActivityLog

namespace Act

/-- The settings, read once. A failure leaves nothing behind. -/
def settings : Act Settings := do
  let w ← get
  match w.settings with
  | some s => return s
  | none => do
    let s ← ofExcept (Settings.read w.environment w.files)
    modify fun w => { w with settings := some s }
    return s

/-- Starts a request: a fresh context, active from now on. An id is drawn even if another one is given. No attribute may
have the name of a parameter. -/
def startRequest (given : Value) (attributes : OrderedMap Value) : Act Nat := do
  ofExcept (refuseParameters "LoggingCoordinator.start_request" ["self", "correlation_id"] attributes.keys)
  let fresh ← drawId
  let w ← get
  let given := w.reveal given
  let correlationId ← if given.truthy then ofExcept given.written else pure fresh
  set { w with contexts := w.contexts.activate { correlationId := .text correlationId, attributes } }
  return w.contexts.table.next

/-- A context, not active. An id is drawn only if none is given. -/
def makeContext (given : Option Value) (attributes : OrderedMap Value) (detached : Bool) : Act Nat := do
  match given with
  | some correlationId => add correlationId
  | none => add (.text (← drawId))
where
  add (correlationId : Value) : Act Nat := do
    let w ← get
    set { w with contexts := w.contexts.add { correlationId, attributes, detached } }
    return w.contexts.table.next

/-- Makes a context active. -/
def enterContext (id : Nat) : Act Unit := modify fun w => { w with contexts := w.contexts.enter id }

/-- Leaves a context. -/
def exitContext (id : Nat) : Act Unit := do
  let w ← get
  set { w with contexts := ← ofExcept (w.contexts.exit id) }

/-- A fresh context outside of any request. -/
def detachedContext : Act Nat := makeContext none {} true

/-- The active context, or a fresh one outside of any request. -/
def correlationContext : Act Nat := do
  match (← get).contexts.active with
  | some id => return id
  | none => detachedContext

/-- A context by its number. -/
def context (id : Nat) : Act RequestContext := do row "context" ((← get).contexts.table.get? id)

end Act

namespace StructuredCore

/-- The logger of records. -/
def loggerName : String := "netlog.network"

/-- The name of the event that carries a record. -/
def eventName : String := "network_activity"

/-- Where the request's correlation id is looked for when the record has none. -/
def correlationHeader : String := "x-correlation-id"

/-- What a stored record holds under a name. Only what looks like a mapping can be asked. -/
def lookIn (w : World) (record : Value) (name : String) : Except Failure Value :=
  match record with
  | .shared thing _ => Headers.ask (w.content thing) name
  | v => Headers.ask v name

/-- The correlation id that a request brings along: that of the record stored on it, else that of its header. -/
def broughtId (adapter : Adapter) : Act Value := do
  let stored ← Act.readStored adapter.target "log_record"
  let w ← get
  let known ← if (w.reveal stored).truthy then Act.ofExcept (lookIn w stored "correlation_id") else pure .null
  if (w.reveal known).truthy then return known else Act.readHeader adapter correlationHeader

/-- The context's logger as a value on a host. -/
def loggerValue : Value := .ofType "logger" []

/-- Starts a request's context and puts it on the request. -/
def bindLogFunctions (target : Nat) : Act Unit := do
  let adapter ← Act.adapter target
  let brought ← broughtId adapter
  let id ← Act.startRequest brought {}
  let context ← Act.context id
  Act.writeField target "correlation_id" context.correlationId
  Act.writeField target "log_context" (.context id)
  Act.writeField target "logger" loggerValue

/-- The overrides after a change: an absent value takes the override away. -/
def override (overrides : Record) (name : String) (value : Value) : Record := overrides.store name value

/-- What a core's records go through, settled by the first of them. -/
def useChain (id : Nat) (c : StructuredCore) : Act (Option Chain) := do
  let w ← get
  let chain := c.chain.orElse fun _ => w.chain?
  Act.setCore id (.structured { c with chain })
  return chain

/-- The structured core with a number. -/
def toCore (id : Nat) (c : StructuredCore) : LoggingCore where
  initLog := pure {}
  preFields := pure c.config.pre
  postFields := pure c.config.post
  bindLogFunctions := bindLogFunctions
  writeStaticFields record w := (.ok (), record.insertAll c.overrides.entries, w)
  sendLog level record := do
    let level ← Act.ofExcept (Level.ofLine level)
    Logger.logFields loggerName level eventName record (← useChain id c)
  setLoggingLevel level := do Act.setLoggingLevel (← Act.ofExcept (Level.ofValue level)).name
  setLogPattern pattern := Act.setLogPattern pattern
  overrideField name value := do
    let overrides := override c.overrides name value
    Act.setCore id (.structured { c with overrides })
    return overrides.contains name
  correlationObject := do return .context (← Act.correlationContext)
  logMessage level message fields := do
    Act.ofExcept (refuseParameters "StructlogLoggingCore.log_message" ["self", "level", "message"] fields.keys)
    let context ← Act.context (← Act.correlationContext)
    let level ← Act.ofExcept (Level.ofLine level)
    context.logMessage (.text level.name) message fields

/-- The fields of a core: those it is told, else those of the file that the settings name, else the built-in ones. -/
def chooseFields (resolve : Document.Resolver Act) (config : Option FieldConfig) (s : NetworkSettings) :
    Act FieldConfig := do
  match config with
  | some c => return c
  | none => do
    let path := s.fieldConfigPath.getD ""
    if path.isEmpty then return Builtin.fieldConfig (.text s.componentName) (.text s.layer)
    else FieldConfig.load resolve (← get).files path

/-- Configures logging as the settings say. -/
def configureLogging (s : Settings) : Act Unit := do
  let level ← Act.ofExcept (Level.ofValue (.text s.logging.level))
  Act.configureLogging level.name ⟨.text s.logging.format, .ofText? s.logging.pattern⟩

/-- Makes a structured core. Logging is configured before the fields are chosen. -/
def create (resolve : Document.Resolver Act) (config : Option FieldConfig) : Act Nat := do
  let s ← Act.settings
  configureLogging s
  let config ← chooseFields resolve config s.network
  Act.addCore (.structured { config })

end StructuredCore

end ActivityLog
