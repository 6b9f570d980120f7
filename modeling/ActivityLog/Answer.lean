import ActivityLog.Phase

/-!
# Answers of functions that are no field functions

A configuration may name any function of a module, and it is then called with a request, a response and a record. An
`Answer` tells what becomes of that: most functions refuse, some give an object, and those of the application itself
may do something (`Operation`).
-/

namespace ActivityLog

/-- An argument of a field function. -/
inductive Argument where
  | request
  | response
  | record
  deriving DecidableEq, Repr

/-- What a function may want of an argument. -/
inductive Fit where
  /-- It is not there. -/
  | absent
  /-- It counts as true. -/
  | truthy
  /-- It can be looked up by. -/
  | hashable
  /-- A whole number, truth values among them. -/
  | whole
  /-- A whole number from a least to a greatest one. -/
  | between (least greatest : Int)
  | text
  | bytes
  /-- Its type makes objects that are complete at once: numbers, texts, bytes and nothing. -/
  | complete
  /-- It is of a type of plain data. -/
  | ofType (name : String)
  /-- The name of a file: a text, or bytes. -/
  | path
  /-- Texts can be looked for in it. -/
  | container
  /-- It has so many entries. -/
  | entries (n : Nat)
  deriving DecidableEq, Repr

/-- How a fault names the type of an argument. -/
inductive Naming where
  /-- With its module, if it tells of one. -/
  | qualified
  | plain
  /-- Plainly, but nothing by its own name. -/
  | byWord
  /-- Not by its type, but as it shows. -/
  | shown
  deriving DecidableEq, Repr

/-- What functions do that are called with arguments they are not made for. -/
inductive Operation where
  /-- Writes the record into the request, under the response. -/
  | storeValue
  /-- Prepares the request as a pass over the response. -/
  | preparePass
  /-- Notes the record as the failure of a field. -/
  | noteFailure
  /-- Stores the record on the target of the request. -/
  | writeField
  /-- Makes a pipeline for the request, with the fields of the response. -/
  | makePipeline
  /-- Prepares the request as a pipeline. -/
  | preparePipeline
  /-- Starts the request as a pipeline. -/
  | startPipeline
  /-- Completes the request as a request's log. -/
  | complete
  /-- Configures logging, shared by all or apart: level, format and pattern. -/
  | configureLogging (shared : Bool)
  /-- Prepares the request as a logging configuration. -/
  | prepareConfiguration
  /-- Adds the active correlation id to the record. -/
  | addCorrelation
  /-- Adds the ids of the current span to the record. -/
  | addTrace
  /-- Makes a context with the request as its correlation id. -/
  | makeContext
  /-- Prepares the request as a context. -/
  | prepareContext
  /-- Logs the record by the request as a context. -/
  | logByContext
  /-- Prepares the request as a logging core. -/
  | prepareCore
  /-- Overrides a field in the request as a logging core. -/
  | overrideField
  /-- Sends the record by the request as a logging core. -/
  | sendLog
  /-- Prepares the request as an entry point. -/
  | prepareFacade
  /-- Passes a call on to the core of the request as an entry point. -/
  | callCore (name : String)
  /-- Logs the request by the application's own entry point, to call the record next. -/
  | logNetwork
  /-- Makes a middleware that uses the response as its core. -/
  | makeMiddleware
  /-- Prepares the request as a middleware of the web framework. -/
  | prepareMiddleware
  /-- Prepares the request as work that follows a response. -/
  | prepareTask
  /-- Prepares the request as a connection, the response being the description of its call. -/
  | prepareConnection
  /-- Makes a web request of the request as the description of its call. -/
  | makeRequest
  /-- Makes a response. -/
  | makeResponse
  /-- Prepares the request as a response. -/
  | prepareResponse
  /-- Sets a cookie of the request as a response. -/
  | setCookie
  /-- Looks the response up in the request; the record is for when it is not there. -/
  | lookUp
  /-- The same, and takes it out, of a table or of a mapping. -/
  | takeOut (ofTable : Bool)
  /-- The same, and puts the record in if it is not there. -/
  | setDefault
  /-- Walks through the request, the response and the record for what to put into a set of a type, or to take out of one
  that is there. -/
  | gather (type : Option String)
  /-- Sets the attribute of the request that the response names to the record. -/
  | setAttribute
  /-- Writes the record as a line of the shared configuration. -/
  | render
  /-- Writes the record as a line for the console, or as JSON. -/
  | renderAs (console : Bool)
  /-- Logs the request at a level, by the logger of records, with the response and the record beside it. -/
  | logBeside (level : String)
  /-- Resolves the fields of a phase of the application's own pipeline into the record. -/
  | runPass (phase : Phase)
  /-- Asks the request for a function that is then called with the result of calling the record. -/
  | decode
  deriving DecidableEq, Repr

/-- How a function answers a request, a response and a record that it is not made for. -/
inductive Answer where
  /-- It fails with a fault of a kind. -/
  | fails (kind text : String)
  /-- It asks an argument for attributes, one after the other, and calls the last one. -/
  | asks (argument : Argument) (names : List String)
  /-- It cannot use an argument. The fault has the name of the argument's type between two texts. -/
  | rejects (argument : Argument) (kind before after : String) (naming : Naming := Naming.qualified)
  | nothing
  | emptyTable
  /-- It gives a text. -/
  | givesText (s : String)
  /-- It gives an argument back. -/
  | gives (argument : Argument)
  /-- It gives an object of a type. -/
  | makes (typeName : String)
  /-- It gives an error of a class of the application's own, with a code unless the response is one. -/
  | makesError (className code : String)
  /-- It gives an error of another class, made from some arguments. -/
  | makesFault (className : String) (arguments : List Argument)
  /-- It depends on what an argument is. -/
  | needs (argument : Argument) (fit : Fit) (otherwise next : Answer)
  /-- It does something. -/
  | performs (op : Operation)
  deriving DecidableEq, Repr

end ActivityLog
