import ActivityLog.Logging.Kind
import ActivityLog.World

/-!
# Loggers

A logger writes events as lines, if logging is configured, the logger belongs to the application's name space and the
level passes the threshold. A logger may have a threshold of its own, and handlers, which are told of its lines, too.
Some field names cannot be handed to a logger, because its methods have parameters of these names. A request's context
has a logger of its own, with the correlation id bound to it.
-/

namespace ActivityLog

/-- The correlation id of the active context. -/
def World.activeId (w : World) : Option Value := w.contexts.current?.map (·.correlationId)

/-- The configuration that lines go by: the last that was made, the shared one or one apart from it. -/
def World.lineLogging (w : World) : Option LoggingState := w.ownLogging.orElse fun _ => w.logging

/-- What the events of a logger go through that is used for the first time. -/
def World.chain? (w : World) : Option Chain :=
  match w.ownLogging with
  | some s => some (.apart s.layout)
  | none => w.logging.map fun _ => .shared

/-- A layout as it is now: its pattern may be a record that goes on changing. -/
def World.settled (w : World) (layout : Layout) : Layout := { layout with pattern := w.reveal layout.pattern }

/-- How the shared configuration writes lines. -/
def World.sharedLayout (w : World) : Layout := w.settled ((w.logging.map (·.layout)).getD LoggingState.defaultLayout)

/-- How lines are written that go through a chain. Without one, they go through the one for new loggers. -/
def World.layoutOf (w : World) (chain : Option Chain) : Layout :=
  match chain.orElse fun _ => w.chain? with
  | some (.apart layout) => w.settled layout
  | _ => w.sharedLayout

/-- The type of the loggers that are asked for now. -/
def World.loggerKind (w : World) : LoggerKind := if w.lineLogging.isSome then .full else .plain

/-- The state with another threshold of the name space, which all configurations share. -/
def World.withThreshold (w : World) (n : Int) : World :=
  { w with logging := w.logging.map fun s => { s with threshold := n },
           ownLogging := w.ownLogging.map fun s => { s with threshold := n } }

namespace Logger

/-- Hands a line on, stage by stage. The name space keeps it; something else that was put there fails. -/
def deliver (line : Line) : List (Bool × List Value) → Act Unit
  | [] => pure ()
  | (kept, handlers) :: rest => do
    if kept then modify fun w => { w with lines := w.lines ++ [line] }
    match handlers.findSome? (LoggerTree.handlerFault line.level) with
    | some f => throw f
    | none => deliver line rest

/-- Hands an event to the lines, once its fields are known to be in order. A logger outside of the name space gets as
far as the finished text, but its lines are not seen; the same goes for all loggers before logging is configured. A
logger that has been used before may have a chain of its own. -/
def emit (logger : String) (level : Level) (event : Record) (chain : Option Chain := none) : Act Unit := do
  let w ← get
  match w.lineLogging with
  | none =>
    let finished := Event.completePlainly level event
    discard (Act.ofExcept (Console.render (finished.map w.reveal)))
  | some s =>
    if w.loggers.passes s logger level then
      let finished ← Act.ofExcept (Event.complete logger level w.activeId w.span event)
      let text ← Act.ofExcept ((w.layoutOf chain).render (finished.map w.reveal))
      deliver ⟨logger, level, text⟩ (w.loggers.stages logger)

/-- Writes an event at a level. One more name is reserved by then. -/
def write (logger : String) (bound : Record) (level : Level) (event : Value) (fields : Record)
    (chain : Option Chain := none) : Act Unit := do
  let kind := (← get).loggerKind
  Act.ofExcept (refuseParameters kind.writerName ["method_name"] fields.keys)
  emit logger level (Event.assemble bound fields event) chain

/-- The threshold that a value names: a number, or the name of one. -/
def thresholdValue : Value → Except Failure Int
  | .bool b => .ok (if b then 1 else 0)
  | .int n => .ok n
  | .text s => (thresholdOf s).map fun n => n
  | v => .error (.fault .type ("Level not an integer or a valid string: " ++ v.shown))

/-- Sets the threshold of a logger. -/
def setThreshold (logger : String) (n : Int) (w : World) : World :=
  if logger = LoggingState.nameSpace then w.withThreshold n
  else { w with loggers := w.loggers.insert logger { w.loggers.options logger with threshold := n } }

/-- Changes the handlers of a logger. A handler is there only once. -/
def changeHandlers (logger : String) (add : Bool) (handler : Value) (w : World) : World :=
  let options := w.loggers.options logger
  let others := options.handlers.filter fun h => h.shown != handler.shown
  let handlers := if !add then others else if others.length < options.handlers.length then options.handlers
    else options.handlers ++ [handler]
  { w with loggers := w.loggers.insert logger { options with handlers } }

/-- Whether a number is below zero; nothing for other values. -/
def isNegative? : Value → Option Bool
  | .bool _ => some false
  | .int n => some (decide (n < 0))
  | .float (.finite negative m _) => some (negative && m != 0)
  | .float (.infinite negative) => some negative
  | .float .nan => some false
  | _ => none

/-- The fault of comparing values of two types that have no order. -/
def incomparable (operator left right : String) : Failure :=
  .fault .type ("'" ++ operator ++ "' not supported between instances of '" ++ left ++ "' and '" ++ right ++ "'")

/-- Calls a method with a message and fields, the values of the logger being bound. -/
def call (logger : String) (bound : Record) (method : LogMethod) (message : Value) (fields : Record) : Act Unit := do
  Act.ofExcept (method.signature.check method.qualified 2 fields.keys)
  let kind := (← get).loggerKind
  match method.effect with
  | .write level => write logger bound level message fields
  | .writeAt =>
    if kind = .plain then
      match isNegative? message with
      | some true => return
      | some false => pure ()
      | none => throw (incomparable "<" message.qualifiedTypeName "int")
    if !message.isHashable then throw (.unhashable message)
    match Level.ofNumber? message with
    | some level => write logger bound level (fields.value "event") (fields.erase "event")
    | none => throw (.fault .key message.shown)
  | .writeAs =>
    if !message.isHashable then throw (.unhashable message)
    match message.text?.bind Level.ofMethod? with
    | some level =>
      level.forM fun l => emit logger l (Event.assemble bound (fields.erase "event") (fields.value "event"))
    | none => throw (.fault .key message.shown)
  | .unbind strict =>
    if !message.isHashable then throw (.unhashable message)
    let known := match message with
      | .text name => bound.contains name
      | _ => false
    if strict && !known then throw (.fault .key message.shown)
  | .ask =>
    if kind = .full && !message.isHashable then throw (.unhashable message)
    if (isNegative? message).isNone then
      let type := message.qualifiedTypeName
      throw (if kind = .full then incomparable ">=" "int" type else incomparable ">=" type "int")
  | .setLevel => do
    let n ← Act.ofExcept (thresholdValue message)
    modify (setThreshold logger n)
  | .changeHandlers add => modify (changeHandlers logger add message)
  | .child =>
    match message with
    | .text _ => pure ()
    | v => throw (.fault .type ("sequence item 1: expected str instance, " ++ v.typeName ++ " found"))
  | .handle => throw (.noAttribute message "levelno")
  | .idle => pure ()

/-- What a logger has under a name. -/
inductive Attribute where
  | method (m : LogMethod)
  /-- A routine or an operator that loggers have in common with all objects. -/
  | common (name : String)
  /-- Something of a type that cannot be called. -/
  | value (type : String)

/-- What a logger has under a name, if anything. -/
def attribute? (kind : LoggerKind) (logger name : String) : Option Attribute :=
  match kind.methods.lookup name with
  | some m => some (.method m)
  | none =>
    match kind.properties.lookup name with
    | some type => some (.value type)
    | none =>
      if kind = .full && name = "_logger" then
        some (.value (if logger = LoggerTree.root then "RootLogger" else "Logger"))
      else if kind = .full && name = "parent" then some (.value (LoggerTree.parentType logger))
      else if (Attribute.routines "" ++ Attribute.operators "").contains name then some (.common name)
      else none

/-- What loggers keep as attributes of their own. -/
def ownAttributes : List String := ["_logger", "_processors", "_context"]

/-- Calls a routine or an operator that loggers have in common with all objects. -/
def callCommon (kind : LoggerKind) (logger name : String) (message : Value) (names : List String) :
    Except Failure Unit :=
  let wrong (text : String) : Except Failure Unit := .error (.fault .type text)
  let qualified := kind.typeName ++ "." ++ name
  let named (known : String → Bool) : Except Failure Unit :=
    match message with
    | .text s => if known s then .ok () else .error (.noAttribute (.ofType kind.typeName []) s)
    | v => wrong ("attribute name must be string, not '" ++ v.qualifiedTypeName ++ "'")
  if name = "__new__" then wrong ("object.__new__(X): X is not a type object (" ++ message.qualifiedTypeName ++ ")")
  else if (Attribute.operators "").contains name then
    if !names.isEmpty then wrong ("wrapper " ++ name ++ "() takes no keyword arguments")
    else if name = "__str__" then wrong "expected 0 arguments, got 1"
    else if name = "__setattr__" then wrong " expected 2 arguments, got 1"
    else if name = "__delattr__" then named ownAttributes.contains
    else if name = "__getattribute__" then named fun s => (attribute? kind logger s).isSome
    else .ok ()
  else if name = "__subclasshook__" then
    if names.isEmpty then .ok () else wrong (name ++ "() takes no keyword arguments")
  else if !names.isEmpty then wrong (qualified ++ "() takes no keyword arguments")
  else if name = "__format__" then
    match message with
    | .text s => if s.isEmpty then .ok () else wrong ("unsupported format string passed to " ++ qualified)
    | .null => wrong "__format__() argument must be str, not None"
    | v => wrong ("__format__() argument must be str, not " ++ v.qualifiedTypeName)
  else if name = "__reduce_ex__" then
    match message with
    | .int _ | .bool _ => .ok ()
    | v => wrong ("'" ++ v.qualifiedTypeName ++ "' object cannot be interpreted as an integer")
  else wrong (qualified ++ "() takes no arguments (1 given)")

/-- Logs fields at a level; one of them may be the event's name, and if none is, the name is given. -/
def logFields (logger : String) (level : Level) (event : String) (fields : Record) (chain : Option Chain) :
    Act Unit := do
  let method := LogMethod.ofLevel level
  Act.ofExcept (method.signature.check ("BoundLogger." ++ method.name) 1 fields.keys)
  write logger {} level ((fields.get? "event").getD (.text event)) (fields.erase "event") chain

/-- The name of a logger; what counts as false names the root of all. -/
def nameOf (v : Value) : Except Failure String :=
  match v with
  | .text s => .ok (if s.isEmpty then LoggerTree.root else s)
  | v => if v.truthy then .error (.fault .type "A logger name must be a string") else .ok LoggerTree.root

/-- The name of an attribute, which must be a text. -/
def attributeName : Value → Except Failure String
  | .text s => .ok s
  | v => .error (.fault .type ("attribute name must be string, not '" ++ v.qualifiedTypeName ++ "'"))

/-- Binds values to a logger and calls a method of it by name. -/
def invoke (logger : Value) (values : Record) (name message : Value) (fields : Record) : Act Unit := do
  Act.ofExcept (refuseParameters "BoundLoggerLazyProxy.bind" ["self"] values.keys)
  let kind := (← get).loggerKind
  let logger ← if kind = .full then Act.ofExcept (nameOf logger) else pure LoggerTree.root
  let name ← Act.ofExcept (attributeName name)
  match attribute? kind logger name with
  | some (.method method) => call logger values method message fields
  | some (.common name) => Act.ofExcept (callCommon kind logger name message fields.keys)
  | some (.value type) => throw (.fault .type ("'" ++ type ++ "' object is not callable"))
  | none => throw (.noAttribute (.ofType kind.typeName []) name)

end Logger

namespace Act

/-- Draws a fresh id. -/
def drawId : Act String := modifyGet fun w => w.drawId

/-- Changes the shared logging configuration, which is made if there is none. Lines go by it from then on. -/
def configureLogging (level : String) (layout : Layout) : Act Unit := do
  let (state, result) := LoggingState.configure (← get).logging level layout
  modify fun w => { w with logging := state }
  ofExcept result
  modify fun w => { w with ownLogging := none }

/-- Makes a logging configuration apart from the shared one. Lines go by it from then on. -/
def configureApart (level : String) (layout : Layout) : Act Unit := do
  let (state, result) := LoggingState.configure none level layout
  ofExcept result
  modify fun w => match state with
    | some s => { w.withThreshold s.threshold with ownLogging := some s }
    | none => w

/-- The shared logging configuration, made if there is none. -/
def loggingState : Act LoggingState := do
  match (← get).logging with
  | some s => return s
  | none => do
    configureLogging "INFO" LoggingState.defaultLayout
    row "logging configuration" (← get).logging

/-- Changes the level of the shared configuration. -/
def setLoggingLevel (level : String) : Act Unit := do
  let (state, result) := (← loggingState).setLevel level
  modify fun w => { w with logging := some state }.withThreshold state.threshold
  ofExcept result

/-- Changes the pattern of the shared configuration. -/
def setLogPattern (pattern : Value) : Act Unit := do
  let state := (← loggingState).setPattern pattern
  modify fun w => { w with logging := some state }

end Act

namespace RequestContext

/-- The logger of messages. -/
def loggerName : String := "netlog.message"

/-- What the context's logger adds to every event. -/
def bound (c : RequestContext) : Except Failure Record :=
  if c.attributes.contains "correlation_id" then
    .error (.fault .type
      "structlog._config.BoundLoggerLazyProxy.bind() got multiple values for keyword argument 'correlation_id'")
  else
    match refuseParameters "BoundLoggerLazyProxy.bind" ["self"] c.attributes.keys with
    | .error f => .error f
    | .ok () => .ok ((OrderedMap.ofList [("correlation_id", c.correlationId)]).insertAll c.attributes.entries)

/-- The name of the method that a level asks for, which must be a text. -/
def methodName : Value → Except Failure String
  | .text level => .ok (Text.lower level)
  | .bytes _ => .error (.fault .type "attribute name must be string, not 'bytes'")
  | v => .error (.noAttribute v "lower")

/-- Logs a message under the context's correlation id. A level that is no method of loggers counts as `info`; one that
names another method of loggers runs into that. -/
def logMessage (c : RequestContext) (level message : Value) (fields : Record) : Act Unit := do
  Act.ofExcept (refuseParameters "RequestContext.log_message" ["self", "level", "message"] fields.keys)
  let bound ← Act.ofExcept c.bound
  let name ← Act.ofExcept (methodName level)
  let kind := (← get).loggerKind
  match Logger.attribute? kind loggerName name with
  | some (.method method) => Logger.call loggerName bound method message fields
  | some (.common name) => Act.ofExcept (Logger.callCommon kind loggerName name message fields.keys)
  | _ => Logger.call loggerName bound (kind.methodOf .info) message fields

end RequestContext

end ActivityLog
