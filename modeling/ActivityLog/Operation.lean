import ActivityLog.Access
import ActivityLog.Facade
import ActivityLog.Function

/-!
# What functions do that are no field functions

A function that a configuration names by mistake gets the request, the response and the record for whatever arguments
it has. `Operation.run` says what the functions do that get anywhere with these: most take the request for an object of
their own, ask it for what such an object has, and fail there, or leave something on it.
-/

namespace ActivityLog

/-- What a function is called with, and what is left of the record then. -/
structure Given where
  parties : Parties
  record : Record
  left : Record

namespace Given

/-- The record as a value: that of a log stays what it is when the log's record changes. -/
def recordValue (g : Given) : Value :=
  match g.parties.log with
  | some id => .shared (.record id) false
  | none => .dict g.left.entries

/-- The request as a value. -/
def request (g : Given) : Act Value := Act.valueOf g.parties.request

/-- The response as a value. -/
def response (g : Given) : Act Value := Act.valueOf g.parties.response

/-- An argument as a value. -/
def argument (g : Given) : Argument → Act Value
  | .request => g.request
  | .response => g.response
  | .record => return .dict g.record.entries

/-- Asks the request for an attribute. -/
def ask (g : Given) (name : String) : Act Value := Act.demand g.parties.request name

/-- Sets attributes of the request. -/
def prepare (g : Given) (attributes : List (String × Value)) : Act Unit :=
  Act.setAttributes g.parties.request attributes

/-- Nothing, once something has been done. -/
def nothing (a : Act Unit) : Act Value := do a; return .null

/-- The fault of a record that lacks an attribute. -/
def recordLacks (name : String) : Failure := .noAttribute (.dict []) name

/-- An object of a type of which nothing else is known. -/
def made (typeName : String) : Value := .ofType typeName []

/-- Writes the record into the request, under the response. -/
def storeValue (g : Given) : Act Value := nothing do
  Act.writeItem g.parties.request (← g.response) g.recordValue

/-- Prepares the request as a pass: the response's items are its fields, the record is its phase. -/
def preparePass (g : Given) : Act Value := nothing do
  let fields ← Act.ofExcept (← Act.host g.parties.response).elements
  g.prepare [("descriptors", .ofList fields), ("phase", g.recordValue)]

/-- Notes the record as the failure of the field that the response is. -/
def noteFailure (g : Given) : Act Value := nothing do
  let name ← g.response
  let phase ← Act.demandOf (← g.ask "phase") "value"
  let record : Value := (← get).reveal g.recordValue
  Act.diagnose [.failureNoted name phase (← Act.ofExcept record.written) record.typeName]

/-- A target after a value has been stored on it: as an item of a table, else on its state if it has one, else as an
attribute. Nothing if it does not take the value. -/
def stored (target name v : Value) : Except Failure (Option Value) :=
  match target with
  | .dict _ => (target.withItem name v).map some
  | target =>
    match name, (target.attribute? "state").bind Value.toOption with
    | .text s, some state => .ok ((state.withAttribute? s v).bind fun state => target.withAttribute? "state" state)
    | .text s, none => .ok (target.withAttribute? s v)
    | _, _ => .ok none

/-- Stores the record on the target of the request, under the response. -/
def writeField (g : Given) : Act Value := nothing do
  let target := (← get).reveal (← g.ask "target")
  let name ← g.response
  match ← Act.ofExcept (stored target name g.recordValue) with
  | some target =>
    Act.setHost g.parties.request ((← Act.host g.parties.request).withValue "target" target)
  | none => Act.diagnose [.notWritable name]

/-- Walks through an attribute of the response. -/
def walk (g : Given) (name : String) : Act Unit := do
  let v ← Act.demand g.parties.response name
  discard (Act.ofExcept ((← get).reveal v).elements)

/-- Makes a pipeline for the request as a core, with the fields of the response. -/
def makePipeline (g : Given) : Act Value := do
  if (← g.response).isNull then throw (.wrongCall (← g.ask "get_pre_log_config") 0)
  walk g "pre"
  walk g "post"
  return made "NetworkLogPipeline"

/-- Prepares the request as a pipeline: the response is its core, the record holds its fields. -/
def preparePipeline (g : Given) : Act Value := do
  g.prepare [("core", ← g.response), ("config", g.recordValue), ("level", Pipeline.defaultLevel)]
  throw (recordLacks "pre")

/-- Starts the request as a pipeline, which asks its core for a record. -/
def startPipeline (g : Given) : Act Value := do
  discard (Act.adapter g.parties.response)
  throw (.wrongCall (← Act.demandOf (← g.ask "core") "init_log") 0)

/-- Completes the request as a log: it does not wait for that. -/
def complete (g : Given) : Act Value := nothing do
  Act.diagnose [.completionIgnored (← Act.demandOf (← g.ask "state") "value")]

/-- Bytes with capital letters. -/
def capitalBytes (b : List UInt8) : List UInt8 := b.map fun c => if 97 ≤ c && c ≤ 122 then c - 32 else c

/-- The level that an argument names, in capitals: a text, or bytes. -/
def capitalLevel (id : Nat) : Act Value := do
  match ← Act.valueOf id with
  | .text s => return .text (Text.upper s)
  | .bytes b => return .bytes (capitalBytes b)
  | _ => throw (.wrongCall (← Act.demand id "upper") 0)

/-- Configures logging: the request is the level, the response the format, the record the pattern. -/
def configureLogging (g : Given) (shared : Bool) : Act Value := do
  let level ← match ← capitalLevel g.parties.request with
    | .text level => pure level
    | v => throw (.fault .type ("Level not an integer or a valid string: " ++ v.shown))
  let layout : Layout := ⟨← g.response, g.recordValue⟩
  if shared then Act.configureLogging level layout else Act.configureApart level layout
  return made "NetlogLogger"

/-- Prepares the request as a logging configuration: the response is the level, the record the format. -/
def prepareConfiguration (g : Given) : Act Value := do
  let level ← capitalLevel g.parties.response
  g.prepare [("level", level), ("log_format", g.recordValue), ("log_pattern", .null),
    ("_json_renderer", made "JSONRenderer"), ("_console_renderer", made "ConsoleRenderer")]
  throw (.wrongCall (← g.ask "configure_structlog") 0)

/-- Makes a context: the request is its correlation id, the record has its attributes. -/
def makeContext (g : Given) : Act Value := do
  return .context (← Act.makeContext (some (← g.request)) g.record false)

/-- Prepares the request as a context. -/
def prepareContext (g : Given) : Act Value := nothing do
  g.prepare [("correlation_id", ← g.response), ("start_time", g.recordValue), ("attributes", .dict []),
    ("detached", .bool false)]

/-- Logs the record by the request as a context: at the level that the response names, or as information. -/
def logByContext (g : Given) : Act Value := do
  let logger ← g.ask "logger"
  let name ← match ← g.response with
    | .text level => pure (Text.lower level)
    | .bytes _ => throw (.fault .type "attribute name must be string, not 'bytes'")
    | _ => throw (.wrongCall (← Act.demand g.parties.response "lower") 0)
  match ← Act.outcome (Act.demandOf logger name) with
  | .ok (.function f) => throw (.wrongCall (.function f) 1)
  | _ => throw (.wrongCall (← Act.demandOf logger "info") 1)

/-- Prepares the request as a logging core: the response holds its fields, the record its settings. -/
def prepareCore (g : Given) (env : Surroundings) : Act Value := do
  if !g.record.entries.isEmpty then
    g.prepare [("settings", g.recordValue)]
    throw (recordLacks "logging")
  let s ← Act.settings
  g.prepare [("settings", made "NetlogSettings")]
  StructuredCore.configureLogging s
  g.prepare [("logging_config", made "NetlogLogger")]
  let fields ← match ← g.response with
    | .null => do
      discard (StructuredCore.chooseFields env.resolve none s.network)
      pure (made "FieldConfig")
    | v => pure v
  nothing (g.prepare [("field_config", fields), ("coordinator", made "LoggingCoordinator"), ("_overrides", .dict []),
    ("_network_logger", StructuredCore.loggerValue)])

/-- Overrides a field in the request as a logging core: the response names it, the record is its value. -/
def overrideField (g : Given) : Act Value := do
  let overrides ← g.ask "_overrides"
  let table ← Act.ofExcept ((← get).reveal overrides).asTable
  let overrides ← Act.ofExcept ((Value.dict table.entries).withItem (← g.response) g.recordValue)
  g.prepare [("_overrides", overrides)]
  return .bool true

/-- Sends the record by the request as a logging core, at the level that the response names. -/
def sendLog (g : Given) : Act Value := do
  let logger ← g.ask "_network_logger"
  let level ← Act.ofExcept (Level.ofLine (← g.response))
  throw (.wrongCall (← Act.demandOf logger level.name) 0)

/-- Prepares the request as an entry point: the response is its core, the record holds its fields. -/
def prepareFacade (g : Given) : Act Value := nothing do
  g.prepare [("_core", ← g.response), ("_config", g.recordValue), ("_pipeline", .null)]

/-- Passes a call on to the core of the request as an entry point. -/
def callCore (g : Given) (name : String) : Act Value := do
  throw (.wrongCall (← Act.demandOf (← g.ask "core") name) 2)

/-- Logs the request by the application's own entry point. What is to be called next is the record, which cannot be. -/
def logNetwork (g : Given) (env : Surroundings) : Act Value := do
  Facade.logNetwork env (← Facade.own) g.parties.request g.parties.response (throw (.notCallable (.dict [])))

/-- Makes a middleware with the response as its core, or one of its own without it. The record has no fields. -/
def makeMiddleware (g : Given) : Act Value := do
  let s ← Act.settings
  if !(← g.response).truthy then StructuredCore.configureLogging s
  throw (recordLacks "pre")

/-- Prepares the request as a middleware of the web framework. -/
def prepareMiddleware (g : Given) : Act Value := nothing do
  g.prepare [("app", ← g.response), ("dispatch_func", g.recordValue)]

/-- Prepares the request as work that follows a response: the response is to be called with the record. -/
def prepareTask (g : Given) : Act Value := nothing do
  g.prepare [("func", ← g.response), ("args", .ofList [g.recordValue]), ("kwargs", .dict []), ("is_async", .bool false)]

/-- Fails unless the description of a call is of one of some types. -/
def checkCall (id : Nat) (types : List String) : Act Unit := do
  match ← Act.readItem id (.text "type") with
  | .text type => if types.contains type then pure () else throw (.fault (.other "AssertionError") "")
  | _ => throw (.fault (.other "AssertionError") "")

/-- Prepares the request as a connection: the response describes its call. -/
def prepareConnection (g : Given) : Act Value := nothing do
  checkCall g.parties.response ["http", "websocket"]
  g.prepare [("scope", ← g.response)]

/-- Makes a web request: the request describes its call. -/
def makeRequest (g : Given) : Act Value := do
  checkCall g.parties.request ["http"]
  return made "Request"

/-- Checks that the content of a response is nothing, bytes or a text. -/
def checkContent (id : Nat) : Act Unit := do
  match ← Act.valueOf id with
  | .null | .bytes _ | .text _ => pure ()
  | _ => throw (.wrongCall (← Act.demand id "encode") 1)

/-- Checks that the values of a record can be the values of headers. -/
def checkHeaders (record : Record) : Except Failure Unit :=
  record.entries.forM fun (name, v) => do
    let _ ← Latin1.bytes (Text.lower name)
    match v with
    | .text s => (Latin1.bytes s).map fun _ => ()
    | v => throw (.noAttribute v "encode")

/-- Whether a record has a header that tells the length of the content. -/
def tellsLength (record : Record) : Bool := record.keys.any fun name => Text.lower name == "content-length"

/-- Makes a response: the request is its content, the response its status, the record has its headers. The length of
the content is added unless it is there, which takes a number for the status. -/
def makeResponse (g : Given) : Act Value := do
  checkContent g.parties.request
  Act.ofExcept (checkHeaders g.record)
  let status ← g.response
  if status.number?.isNone && !tellsLength g.record then
    throw (Logger.incomparable "<" status.qualifiedTypeName "int")
  return made "Response"

/-- Prepares the request as a response: the response is its content, the record its status. -/
def prepareResponse (g : Given) : Act Value := do
  g.prepare [("status_code", g.recordValue), ("background", .null)]
  throw (.wrongCall (← g.ask "render") 1)

/-- Names that a cookie cannot have, because its parts have them. -/
def cookieParts : List String :=
  ["expires", "path", "comment", "domain", "max-age", "secure", "httponly", "version", "samesite"]

/-- Whether a text can be the name of a cookie. -/
def isCookieName (s : String) : Bool :=
  !s.isEmpty && s.toList.all fun c => c.isAlphanum || "!#$%&'*+-.^_`|~:".toList.contains c

/-- Sets a cookie of the request as a response: the response is its name, the record its value. -/
def setCookie (g : Given) : Act Value := do
  let name ← g.response
  if !name.isHashable then throw (.unhashable name)
  match name with
  | .text s =>
    if cookieParts.contains (Text.lower s) then
      throw (.fault (.other "CookieError") ("Attempt to set a reserved key " ++ name.shown))
    if !isCookieName s then throw (.fault (.other "CookieError") ("Illegal key " ++ name.shown))
  | .bytes _ => throw (.fault .type "cannot use a string pattern on a bytes-like object")
  | _ => throw (.wrongCall (← Act.demand g.parties.response "lower") 0)
  match ← g.ask "raw_headers" with
  | .list _ => return .null
  | headers => throw (.wrongCall (← Act.demandOf headers "append") 1)

/-- What looking the response up in the request gives; nothing if it is not there. -/
def found? (g : Given) : Act (Option Value) := do
  match ← Act.outcome (do Act.readItem g.parties.request (← g.response)) with
  | .ok v => return some v
  | .error (.fault .key _) => return none
  | .error f => throw f

/-- Looks the response up in the request; without it, gives the record. -/
def lookUp (g : Given) : Act Value := do return (← found? g).getD g.recordValue

/-- Takes the response out of the request. A table, or a mapping that is known to be changeable, gives the record
without it. -/
def takeOut (g : Given) (ofTable : Bool) : Act Value := do
  match ← found? g with
  | some v => do
    Act.eraseItem g.parties.request (← g.response)
    return v
  | none =>
    let h ← Act.host g.parties.request
    match ofTable, h.nature with
    | true, _ | _, .mutableMapping => return g.recordValue
    | _, _ => throw (h.missing "_MutableMapping__marker")

/-- Looks the response up in the request, and puts the record there without it. -/
def setDefault (g : Given) : Act Value := do
  match ← found? g with
  | some v => return v
  | none => do
    Act.writeItem g.parties.request (← g.response) g.recordValue
    return g.recordValue

/-- Fails unless all items of an argument can be in a set. -/
def checkItems (id : Nat) : Act Unit := do
  let items ← Act.ofExcept (← Act.host id).elements
  match items.find? fun v => !v.isHashable with
  | some v => throw (.unhashable v)
  | none => pure ()

/-- Walks through the arguments for the items of a set; those of the record are its names. -/
def gather (g : Given) (type : Option String) : Act Value := do
  checkItems g.parties.request
  checkItems g.parties.response
  return (type.map made).getD .null

/-- Sets the attribute of the request that the response names to the record, also of a request that refuses to be
written. -/
def setAttribute (g : Given) : Act Value := nothing do
  match ← g.response with
  | .text name => do
    let h ← Act.host g.parties.request
    match h.nature with
    | .sealed _ => Act.setHost g.parties.request (h.withValue name g.recordValue)
    | _ => Act.setAttribute g.parties.request name g.recordValue
  | v => throw (.fault .type ("attribute name must be string, not '" ++ v.qualifiedTypeName ++ "'"))

/-- A record with all references replaced by what they stand for. -/
def revealed (w : World) (record : Record) : Record := record.map w.reveal

/-- Writes the record as a line. -/
def render (g : Given) (layout : Layout) : Act Value := do
  return .text (← Act.ofExcept (layout.render (revealed (← get) g.record)))

/-- Logs the request by the logger of records of the application's own core. -/
def logBeside (g : Given) (level : Level) : Act Value := nothing do
  let w ← get
  let chain ← match (w.ownFacade.bind w.facades.get?).bind (·.core) with
    | some id =>
      match ← Act.core id with
      | .structured c => StructuredCore.useChain id c
      | .recording _ => pure none
    | none => pure none
  let fields : Record := .ofList [("positional_args", .ofList [← g.response, g.recordValue])]
  Logger.write StructuredCore.loggerName {} level (← g.request) fields chain

/-- Asks the request for a function that reads texts, but the record is called first. -/
def decode (g : Given) : Act Value := do
  discard (g.ask "raw_decode")
  throw (.notCallable (.dict []))

end Given

namespace Operation

/-- Does what a function does. -/
def run (env : Surroundings) (g : Given) : Operation → Act Value
  | .storeValue => g.storeValue
  | .preparePass => g.preparePass
  | .noteFailure => g.noteFailure
  | .writeField => g.writeField
  | .makePipeline => g.makePipeline
  | .preparePipeline => g.preparePipeline
  | .startPipeline => g.startPipeline
  | .complete => g.complete
  | .configureLogging shared => g.configureLogging shared
  | .prepareConfiguration => g.prepareConfiguration
  | .addCorrelation | .addTrace => return g.recordValue
  | .makeContext => g.makeContext
  | .prepareContext => g.prepareContext
  | .logByContext => g.logByContext
  | .prepareCore => g.prepareCore env
  | .overrideField => g.overrideField
  | .sendLog => g.sendLog
  | .prepareFacade => g.prepareFacade
  | .callCore name => g.callCore name
  | .logNetwork => g.logNetwork env
  | .makeMiddleware => g.makeMiddleware
  | .prepareMiddleware => g.prepareMiddleware
  | .prepareTask => g.prepareTask
  | .prepareConnection => g.prepareConnection
  | .makeRequest => g.makeRequest
  | .makeResponse => g.makeResponse
  | .prepareResponse => g.prepareResponse
  | .setCookie => g.setCookie
  | .lookUp => g.lookUp
  | .takeOut ofTable => g.takeOut ofTable
  | .setDefault => g.setDefault
  | .gather type => g.gather type
  | .setAttribute => g.setAttribute
  | .render => do g.render (← get).sharedLayout
  | .renderAs console => g.render ⟨.text (if console then "console" else "json"), .null⟩
  | .logBeside level => g.logBeside ((Level.ofName? level).getD .info)
  | .runPass _ => return g.recordValue
  | .decode => g.decode

/-- The record that a function leaves behind: some add to it, or take out of it. -/
def recordAfter (w : World) (record : Record) : Operation → Record
  | .addCorrelation => Event.addCorrelation w.activeId record
  | .addTrace => Event.addTrace w.span record
  | .render =>
    let layout := w.sharedLayout
    if !layout.pattern.truthy && layout.isConsole then Console.remainder record (Given.revealed w record) else record
  | .renderAs true => Console.remainder record (Given.revealed w record)
  | _ => record

end Operation

end ActivityLog
