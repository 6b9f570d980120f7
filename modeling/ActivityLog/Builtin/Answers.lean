import ActivityLog.Descriptor.Catalogue

/-!
# How functions answer that are no field functions

A configuration may name any function of a module. Called with a request, a response and a record, most refuse so many
arguments; `answers` says how the others answer.
-/

namespace ActivityLog.Builtin

open Attribute (noWhole typeFault)

/-- Functions of one module that answer alike. -/
def alike (module names : String) (answer : Answer) : Catalogue.Answers :=
  (Kind.words names).map fun n => (⟨module, n⟩, answer)

/-- Functions of one module that do something: the function, then what it does. -/
def performing (module : String) (pairs : List (String × Operation)) : Catalogue.Answers :=
  pairs.map fun (name, op) => (⟨module, name⟩, .performs op)

/-- Functions of one module that ask the request for attributes first: the function, then the attributes. -/
def asking (module : String) (pairs : List (String × String)) : Catalogue.Answers :=
  pairs.map fun (name, asked) => (⟨module, name⟩, .asks .request (Kind.words asked))

/-- The answer of a function of a type that hands an object on, but gets none of its type; with nothing in its place,
what is asked is not what the type inherits. -/
def noInstance (withNothing : Answer) : Answer :=
  .needs .request .absent (typeFault "super(type, obj): obj must be an instance or subtype of type") withNothing

/-- The answer of a function that prepares an object, but gets none of its type. -/
def noObject : Answer :=
  noInstance (.rejects .response "TypeError" "super() argument 1 must be type, not " "" .byWord)

/-- The answer of a function that needs whole numbers for some arguments, and what it does with one of them. -/
def wholes (arguments : List Argument) (limited : Argument → Answer → Answer) : Answer :=
  arguments.foldr (fun argument next => .needs argument .whole (noWhole argument) (limited argument next)) .nothing

/-- A whole number in place of which another fault stands if it is too large for two words. -/
def withinWords (kind text : String) (argument : Argument) (next : Answer) : Answer :=
  .needs argument (.between (-Value.bound64) (Value.bound64 - 1)) (.fails kind text) next

/-- A whole number that has to fit a word. -/
def withinWord (argument : Argument) (next : Answer) : Answer :=
  withinWords "OverflowError" "Python int too large to convert to C long" argument
    (.needs argument (.between (-Value.bound32) Value.bound64) (.fails "OverflowError" "signed integer is less than minimum")
      (.needs argument (.between (-Value.bound32) (Value.bound32 - 1))
        (.fails "OverflowError" "signed integer is greater than maximum") next))

/-- A whole number that has to fit a word as the part of a date. -/
def withinDate (argument : Argument) (next : Answer) : Answer :=
  .needs argument (.between (-Value.bound32) (Value.bound32 - 1)) (.fails "ValueError" "ISO calendar component out of range") next

/-- The answer of settings that get a record for what the names of their variables start with. -/
def noPrefix (field : String) : Answer :=
  .fails "SettingsError" ("error getting value for field \"" ++ field ++ "\" from source \"EnvSettingsSource\"")

/-- The answer of a function that remembers what it has read by an argument. -/
def remembering (argument : Argument) (next : Answer) : Answer :=
  .needs argument .hashable (.rejects argument "TypeError" "unhashable type: '" "'") next

/-- The answer of a function that needs the name of a file. -/
def withPath (argument : Argument) (before : String) (next : Answer) : Answer :=
  .needs argument .path (.rejects argument "TypeError" before "" .plain) next

/-- The answers of the application's own functions. -/
def ownAnswers : Catalogue.Answers :=
  performing "netlog.core.resolution" [("store_value", .storeValue), ("ResolutionPass.__init__", .preparePass),
      ("ResolutionPass._log_failure", .noteFailure)] ++
    performing "netlog.core.context" [("ContextAdapter.write_field", .writeField)] ++
    alike "netlog.config.settings" "LoggingSettings" (noPrefix "level") ++
    alike "netlog.config.settings" "NetworkLogSettings" (noPrefix "enabled") ++
    alike "netlog.config.settings" "NetlogSettings" (noPrefix "logging") ++
    performing "netlog.core.pipeline" [("NetworkLogPipeline", .makePipeline),
      ("NetworkLogPipeline.__init__", .preparePipeline), ("NetworkLogPipeline.start", .startPipeline),
      ("RequestLifecycle.complete", .complete), ("self.NetworkLogPipeline.handle", .logNetwork)] ++
    alike "netlog.exceptions" "NetlogError" (.makesError "NetlogError" "NETLOG_ERROR") ++
    alike "netlog.exceptions" "ConfigurationError" (.makesError "ConfigurationError" "CONFIG_ERROR") ++
    alike "netlog.exceptions" "FieldConfigError" (.makesError "FieldConfigError" "FIELD_CONFIG_ERROR") ++
    alike "netlog.exceptions" "NetlogError.__init__" noObject ++
    alike "netlog.exceptions" "ConfigurationError.__init__ FieldConfigError.__init__"
      (noInstance (typeFault "super() takes at most 2 arguments (3 given)")) ++
    performing "netlog.infrastructure.logging.config" [("NetlogLogger", .configureLogging false),
      ("configure_logging", .configureLogging true), ("NetlogLogger.__init__", .prepareConfiguration),
      ("NetlogLogger.add_request_context", .addCorrelation), ("NetlogLogger.add_trace_context", .addTrace),
      ("self.NetlogLogger.render", .render)] ++
    performing "structlog.processors" [("self.JSONRenderer.__call__", .renderAs false)] ++
    performing "structlog.dev" [("self.ConsoleRenderer.__call__", .renderAs true)] ++
    performing "structlog.stdlib" ((Kind.words "debug info warning error critical").map fun level =>
      ("self.BoundLogger." ++ level, .logBeside level)) ++
    performing "netlog.infrastructure.logging.coordinator" [("RequestContext", .makeContext),
      ("RequestContext.__init__", .prepareContext), ("RequestContext.log_message", .logByContext)] ++
    asking "netlog.infrastructure.logging.core" [("StructlogLoggingCore.log_message", "get_correlation_object")] ++
    performing "netlog.infrastructure.logging.core" [("StructlogLoggingCore.__init__", .prepareCore),
      ("StructlogLoggingCore.override_field", .overrideField), ("StructlogLoggingCore.send_log", .sendLog)] ++
    alike "netlog.models.interfaces" "ILoggingCore.send_log ILoggingCore.override_field ILoggingCore.log_message"
      .nothing ++
    performing "netlog.network" [("NetworkLogging.__init__", .prepareFacade),
      ("NetworkLogging.log_message", .callCore "log_message"),
      ("NetworkLogging.override_field", .callCore "override_field"), ("NetworkLogging.log_network", .logNetwork)] ++
    performing "netlog.api.middleware.logging" [("NetworkLoggingMiddleware", .makeMiddleware)] ++
    alike "netlog.api.middleware.logging" "NetworkLoggingMiddleware.__init__" noObject ++
    alike "netlog.api.middleware.logging" "NetworkLoggingMiddleware.dispatch" (.makes "coroutine")

/-- The answers of models' functions. -/
def modelAnswers : Catalogue.Answers :=
  alike "pydantic.main" "BaseModel.model_json_schema" (.rejects .record "TypeError" "'" "' object is not callable") ++
    alike "pydantic.main" "BaseModel._calculate_keys"
      (typeFault "_calculate_keys() missing 1 required positional argument: 'exclude_unset'") ++
    alike "pydantic.main" "BaseModel._copy_and_set_values"
      (typeFault "_copy_and_set_values() missing 1 required keyword-only argument: 'deep'") ++
    alike "pydantic.main" "BaseModel._get_value" (typeFault ("_get_value() missing 5 required positional arguments: " ++
      "'include', 'exclude', 'exclude_unset', 'exclude_defaults', and 'exclude_none'")) ++
    asking "pydantic.main" [("BaseModel.__setattr__", "__pydantic_setattr_handlers__")] ++
    alike "pydantic.main" "BaseModel._setattr_handler"
      (.rejects .request "AttributeError" "type object '" "' has no attribute '__class_vars__'" .plain) ++
    alike "pydantic_settings.main" "BaseSettings" (.makes "BaseSettings") ++
    alike "pydantic_settings.main" "BaseSettings.__init__"
      (noInstance (.fails "AttributeError" "'NoneType' object has no attribute '_settings_build_values'")) ++
    alike "pydantic._internal._model_construction" "ModelMetaclass.__prepare__" .emptyTable ++
    alike "pydantic._internal._model_construction" "ModelMetaclass" (Attribute.classAnswer "type") ++
    alike "pydantic.config" "ConfigDict" (typeFault "dict expected at most 1 argument, got 3") ++
    alike "pydantic_core._pydantic_core" "ValidationError" (typeFault "No constructor defined")

/-- The answers of the functions of logs. -/
def logAnswers : Catalogue.Answers :=
  alike "structlog._config" "configure configure_once" .nothing ++
    alike "structlog._config" "get_logger wrap_logger BoundLoggerLazyProxy" (.makes "logger") ++
    asking "structlog._config" [("BoundLoggerLazyProxy.unbind", "bind"), ("BoundLoggerLazyProxy.try_unbind", "bind")] ++
    alike "structlog._config" "self.BoundLoggerLazyProxy.unbind" missingKey ++
    alike "structlog._config" "self.BoundLoggerLazyProxy.try_unbind" unhashableRecord ++
    alike "structlog._base" "BoundLoggerBase" (.makes "logger") ++
    asking "structlog._base" [("BoundLoggerBase.unbind", "bind"), ("BoundLoggerBase.try_unbind", "bind"),
      ("BoundLoggerBase._proxy_to_logger", "_process_event")] ++
    alike "structlog._generic" "BoundLogger" (.makes "logger") ++
    alike "structlog.stdlib" "BoundLogger" (.makes "logger") ++
    ((Kind.words "unbind try_unbind _proxy_to_logger").flatMap fun name => alike "structlog.stdlib"
      ("BoundLogger." ++ name)
      (noInstance (.fails "AttributeError" ("'super' object has no attribute '" ++ name ++ "'")))) ++
    alike "structlog.stdlib" "self.BoundLogger.unbind" missingKey ++
    alike "structlog.stdlib" "self.BoundLogger.try_unbind" unhashableRecord ++
    asking "structlog.stdlib" ((Kind.words "debug info warning error critical").map fun level =>
      ("BoundLogger." ++ level, "_proxy_to_logger")) ++
    alike "structlog.stdlib" ("BoundLogger.acritical BoundLogger.adebug BoundLogger.aerror BoundLogger.aexception " ++
      "BoundLogger.afatal BoundLogger.ainfo BoundLogger.alog BoundLogger.awarning") (.makes "coroutine") ++
    alike "structlog.stdlib" "get_logger" (.makes "logger") ++
    alike "structlog.processors" "KeyValueRenderer" (.makes "KeyValueRenderer") ++
    alike "structlog.processors" "LogfmtRenderer" (.makes "LogfmtRenderer") ++
    alike "structlog.processors" "TimeStamper" (stamping "TimeStamper") ++
    alike "structlog.processors" "MaybeTimeStamper" (stamping "MaybeTimeStamper")
where
  /-- An object that stamps in a format, which the request is; without one it counts seconds, as the response allows. -/
  stamping (type : String) : Answer :=
    .needs .request .absent (.needs .request .path (.asks .request ["upper"]) (.makes type))
      (.needs .response .truthy (.fails "ValueError" "UNIX timestamps are always UTC.") (.makes type))
  /-- Keys are to be removed, the request first, but there are none. -/
  missingKey : Answer := remembering .request (.rejects .request "KeyError" "" "" .shown)
  /-- Keys are to be removed as far as they are there, but the record cannot be one. -/
  unhashableRecord : Answer := remembering .request (remembering .response (typeFault "unhashable type: 'dict'"))

/-- The answers of the frameworks' functions. -/
def frameworkAnswers : Catalogue.Answers :=
  performing "starlette.middleware.base" [("BaseHTTPMiddleware.__init__", .prepareMiddleware)] ++
    alike "starlette.middleware.base" "BaseHTTPMiddleware.dispatch" (.makes "coroutine") ++
    performing "starlette.requests" [("HTTPConnection.__init__", .prepareConnection), ("Request", .makeRequest)] ++
    alike "starlette.requests" "Request.__init__" noObject ++
    performing "starlette.responses" [("Response", .makeResponse), ("Response.__init__", .prepareResponse),
      ("Response.set_cookie", .setCookie)] ++
    alike "starlette.background" "BackgroundTask" (.makes "BackgroundTask") ++
    performing "starlette.background" [("BackgroundTask.__init__", .prepareTask)] ++
    modelAnswers ++ logAnswers

/-- The answers of the functions for traces. -/
def traceAnswers : Catalogue.Answers :=
  let noLess (argument : Argument) (next : Answer) : Answer :=
    .needs argument .whole
      (.rejects argument "TypeError" "'<' not supported between instances of 'int' and '" "'" .plain) next
  alike "opentelemetry.trace" "get_tracer" (.asks .record ["get_tracer"]) ++
    alike "opentelemetry.trace" ("use_span Tracer.start_as_current_span NoOpTracer.start_as_current_span " ++
      "ProxyTracer.start_as_current_span") (.makes "_AgnosticContextManager") ++
    alike "opentelemetry.trace" "Tracer.start_span TracerProvider.get_tracer" .nothing ++
    alike "opentelemetry.trace" "NoOpTracer.start_span" (.makes "NonRecordingSpan") ++
    alike "opentelemetry.trace" "NoOpTracerProvider.get_tracer" (.makes "NoOpTracer") ++
    alike "opentelemetry.trace" "ProxyTracerProvider.get_tracer" (.makes "ProxyTracer") ++
    asking "opentelemetry.trace" [("ProxyTracer.start_span", "_tracer")] ++
    alike "opentelemetry.trace.span" ("Span.add_event Span.add_link Span.record_exception Span.set_attribute " ++
      "Span.set_status NonRecordingSpan.add_event NonRecordingSpan.add_link NonRecordingSpan.record_exception " ++
      "NonRecordingSpan.set_attribute NonRecordingSpan.set_status") .nothing ++
    alike "opentelemetry.trace.span" "TraceFlags" (Attribute.classAnswer "int") ++
    alike "opentelemetry.trace.span" "SpanContext" (noLess .request (.makes "SpanContext")) ++
    alike "opentelemetry.trace" "ProxyTracer" (.makes "ProxyTracer") ++
    alike "opentelemetry.attributes" "BoundedAttributes" (.needs .request .absent
      (.needs .request (.between 0 (tenTo 4300))
        (.fails "ValueError" "maxlen must be valid int greater or equal to 0") bounded) bounded) ++
    alike "opentelemetry.context.context" "Context" (typeFault "dict expected at most 1 argument, got 3") ++
    alike "opentelemetry.util._once" "Once"
      (typeFault "Once.__init__() takes 1 positional argument but 4 were given") ++
    alike "typing_extensions" "deprecated"
      (typeFault "deprecated.__init__() takes 2 positional arguments but 4 were given")
where
  /-- Attributes from the response: a table, if it holds any. -/
  bounded : Answer := .needs .response .truthy (.makes "BoundedAttributes")
    (.needs .response (.ofType "dict") (.asks .response ["items"]) (.makes "BoundedAttributes"))

/-- The answer of a function that compiles a pattern first, which it gets as a text or as bytes. -/
def withPattern (next : Answer) : Answer :=
  remembering .request (.needs .request .path (typeFault "first argument must be string or compiled pattern") next)

/-- The answer of a function that searches a record, with a text or something else in place of what is found. -/
def searching : Answer :=
  let refused := typeFault "expected string or bytes-like object, got 'dict'"
  .needs .response .path
    (remembering .response (.rejects .response "TypeError" "decoding to str: need a bytes-like object, " " found"))
    refused

/-- The answer of a function that opens a file, how being told by the response. -/
def opening : Answer :=
  .needs .response .text
    (.needs .response .bytes
      (.needs .response .container
        (.rejects .response "TypeError" "argument of type '" "' is not iterable")
        (.rejects .response "TypeError" "open() argument 'mode' must be str, not " ""))
      (typeFault "a bytes-like object is required, not 'str'"))
    (noWhole .record)

/-- The answer of a function that opens a file to write to. -/
def creating : Answer :=
  withPath .request "open: path should be string, bytes or os.PathLike, not "
    (.needs .response .whole (noWhole .response) .nothing)

/-- The answer of a type of ids, one of three forms of which may be given. -/
def identifying (others : List Argument) (bytes : Answer) : Answer :=
  others.foldr (fun other next => .needs other .absent
    (typeFault "one of the hex, bytes, bytes_le, fields, or int arguments must be given") next) bytes

/-- The answers of the functions for files. -/
def fileAnswers : Catalogue.Answers :=
  let part (argument : Argument) (next : Answer) : Answer :=
    withPath argument "expected str, bytes or os.PathLike object, not " (.needs argument .text
      (typeFault "argument should be a str object or an os.PathLike object returning str, not <class 'bytes'>") next)
  alike "pathlib" "Path PurePath" (part .request (part .response (part .record .nothing))) ++
    alike "pathlib" "Path.mkdir" (withPath .request "mkdir: path should be string, bytes or os.PathLike, not "
      (.needs .response .whole (noWhole .response) .nothing)) ++
    alike "pathlib" "Path.open" opening ++ alike "pathlib" "PurePath._from_parsed_parts" (.makes "Path") ++
    asking "pathlib" [("Path.__new__", "_from_parts"), ("PurePath.__new__", "_from_parts"),
      ("Path.read_text", "open"), ("PurePath.is_relative_to", "relative_to"),
      ("PurePath.joinpath", "_make_child"), ("PurePath.relative_to", "_parts _drv _root")] ++
    alike "pathlib" "Path.symlink_to" (withPath .response "symlink: src should be string, bytes or os.PathLike, not "
      (withPath .request "symlink: dst should be string, bytes or os.PathLike, not " .nothing)) ++
    alike "pathlib" "Path.touch" (.needs .record .truthy creating
      (.needs .request .whole
        (withPath .request "utime: path should be string, bytes, os.PathLike or integer, not " creating) creating)) ++
    alike "posixpath" "join" (withPath .request "expected str, bytes or os.PathLike object, not "
      (.needs .response .path
        (.rejects .response "TypeError" "join() argument must be str, bytes, or os.PathLike object, not '" "'" .plain)
        (typeFault "join() argument must be str, bytes, or os.PathLike object, not 'dict'"))) ++
    alike "os" "walk fwalk" (.makes "generator") ++
    alike "pathlib" "Path.write_text" (.needs .response .text
      (.rejects .response "TypeError" "data must be str, not " "" .plain) (.asks .request ["open"]))

/-- The answer of a function that asks an argument for its module, which objects of some types have none of. -/
def withModule (argument : Argument) (types : String) (answer : Answer) : Answer :=
  (Kind.words types).foldr (fun type next => .needs argument (.ofType type) next
    (.rejects argument "AttributeError" "'" "' object has no attribute '__module__'")) answer

/-- The answers of the library's functions. -/
def libraryAnswers : Catalogue.Answers :=
  alike "re" "findall finditer fullmatch match search" (remembering .request (remembering .record .nothing)) ++
    alike "re" "split" (withPattern (noWhole .record)) ++ alike "re" "sub subn" (withPattern searching) ++
    alike "enum" "verify" (.makes "verify") ++ alike "enum" "property" (.makes "property") ++
    alike "types" "DynamicClassAttribute" (.makes "DynamicClassAttribute") ++
    alike "re" "_compile_repl" (remembering .request (remembering .response (typeFault "unhashable type: 'dict'"))) ++
    alike "re" "_expand" (typeFault "decoding to str: need a bytes-like object, dict found") ++
    alike "re" "error" (.needs .response .absent (typeFault "%d format: a real number is required, not dict")
      (.makesFault "error" [.request])) ++
    alike "re" "Match" (typeFault "cannot create 're.Match' instances") ++
    alike "re" "Pattern" (typeFault "cannot create 're.Pattern' instances") ++
    alike "uuid" "UUID" (identifying [.request, .response] (.needs .record (.entries 16)
      (.fails "ValueError" "bytes_le is not a 16-char string") (typeFault "unhashable type: 'slice'"))) ++
    alike "uuid" "UUID.__init__" (identifying [.response] (.needs .record (.entries 16)
      (.fails "ValueError" "bytes is not a 16-char string") (.rejects .record "AssertionError" "" "" .shown))) ++
    alike "uuid" "_find_mac_under_heading _get_command_stdout"
      (withPath .request "expected str, bytes or os.PathLike object, not " .nothing) ++
    performing "collections.abc" [("Mapping.get", .lookUp), ("MutableMapping.pop", .takeOut false),
      ("MutableMapping.setdefault", .setDefault)] ++
    alike "collections.abc" "MutableMapping.__setitem__" (.fails "KeyError" "") ++
    alike "json.decoder" "JSONDecodeError" (.needs .response .path (.asks .response ["count"])
      (typeFault "slice indices must be integers or None or have an __index__ method")) ++
    performing "json.decoder" [("JSONDecoder.decode", .decode)] ++
    asking "json.decoder" [("JSONDecoder.raw_decode", "scan_once")] ++
    alike "_json" "scanstring" (.needs .response .whole (noWhole .response)
      (.rejects .request "TypeError" "first argument must be a string, not " "" .plain)) ++
    alike "_json" "encode_basestring" (typeFault "_json.encode_basestring() takes exactly one argument (3 given)") ++
    alike "_json" "encode_basestring_ascii"
      (typeFault "_json.encode_basestring_ascii() takes exactly one argument (3 given)") ++
    alike "_json" "Encoder" (typeFault "make_encoder() missing required argument 'indent' (pos 4)") ++
    alike "_json" "Scanner" (typeFault "make_scanner() takes exactly 1 argument (3 given)") ++
    asking "json.encoder" [("JSONEncoder.iterencode",
      "check_circular ensure_ascii allow_nan indent c_make_encoder default")] ++
    alike "builtins" "Exception" (.makesFault "Exception" [.request, .response, .record]) ++
    alike "builtins" "ValueError" (.makesFault "ValueError" [.request, .response, .record]) ++
    alike "types" "SimpleNamespace" (Attribute.classAnswer "SimpleNamespace") ++
    alike "types" "GenericAlias" (typeFault "GenericAlias expected 2 arguments, got 3") ++
    alike "abc" "ABCMeta" (Attribute.classAnswer "type") ++
    alike "enum" "EnumType" (.fails "AttributeError" "'dict' object has no attribute '_member_names'") ++
    alike "enum" "Enum.__init__" .nothing ++
    alike "enum" "EnumType._convert_" (remembering .response (.rejects .response "KeyError" "" "" .shown)) ++
    asking "enum" [("EnumType._find_new_", "get"), ("EnumType.__call__", "_create_")] ++
    alike "enum" "self.Enum._generate_next_value_"
      (.needs .record .truthy (.gives .request) (.fails "KeyError" "-1")) ++
    alike "collections.abc" "Sequence.index"
      (typeFault "'<' not supported between instances of 'dict' and 'int'") ++
    alike "typing" "Literal"
      (withModule .request "dict int list float bytes str NoneType" (.makes "_LiteralGenericAlias")) ++
    alike "typing" "Annotated Annotated.__new__" (typeFault "Type Annotated cannot be instantiated.") ++
    alike "typing" "Annotated.__init_subclass__" (typeFault "Cannot subclass typing.Annotated") ++
    alike "typing" "Annotated._class_getitem_inner"
      (withModule .response "dict int list float bytes" (.makes "_AnnotatedAlias")) ++
    alike "typing" "Any" (typeFault "Any cannot be instantiated") ++ alike "typing" "Any.__new__"
      (noInstance (typeFault "super.__new__(X): X is not a type object (NoneType)")) ++
    alike "typing" "_AnyMeta" (Attribute.classAnswer "type") ++
    alike "typing" "_Final.__init_subclass__" (typeFault "Cannot subclass special typing classes") ++
    alike "typing" "Generic.__init_subclass__" (typeFault "Request.__init_subclass__() takes no arguments (3 given)") ++
    alike "_uuid" "generate_time_safe" (typeFault "_uuid.generate_time_safe() takes no arguments (3 given)") ++
    alike "_contextvars" "ContextVar" (typeFault "ContextVar() takes at most 2 arguments (3 given)") ++
    alike "datetime" "date datetime" (wholes [.request, .response, .record] withinWord) ++
    alike "datetime" "tzinfo" (.makes "tzinfo") ++
    alike "datetime" "timezone" (typeFault "timezone() takes at most 2 arguments (3 given)") ++
    alike "logging" "critical debug error exception fatal info warn warning" .nothing ++
    alike "logging" ("self.Logger.critical self.Logger.debug self.Logger.error self.Logger.exception " ++
      "self.Logger.fatal self.Logger.info self.Logger.warn self.Logger.warning") .nothing ++
    asking "logging" [("Logger.critical", "isEnabledFor"), ("Logger.debug", "isEnabledFor"),
      ("Logger.error", "isEnabledFor"), ("Logger.exception", "error"), ("Logger.fatal", "critical"),
      ("Logger.info", "isEnabledFor"), ("Logger.warn", "warning"), ("Logger.warning", "isEnabledFor")] ++
    asking "logging" [("LoggerAdapter.critical", "log"), ("LoggerAdapter.debug", "log"), ("LoggerAdapter.error", "log"),
      ("LoggerAdapter.exception", "log"), ("LoggerAdapter.info", "log"), ("LoggerAdapter.warn", "warning"),
      ("LoggerAdapter.warning", "log"), ("LoggerAdapter.log", "isEnabledFor"), ("LoggerAdapter.process", "extra")] ++
    alike "logging" "Logger.log" (.needs .response .whole (typeFault "level must be an integer")
      (.asks .request ["isEnabledFor"])) ++
    alike "logging" "self.Logger.log" (.needs .request .whole (typeFault "level must be an integer") .nothing) ++
    alike "logging" "Formatter" (typeFault "unhashable type: 'dict'") ++
    alike "logging" "FileHandler" (withPath .request "expected str, bytes or os.PathLike object, not "
      (typeFault "open() argument 'encoding' must be str or None, not dict")) ++
    alike "logging" "log" (.needs .request .whole (typeFault "level must be an integer") .nothing)

/-- Functions of a type of the library that take no arguments, or just one. -/
def taking (amount type names : String) : Catalogue.Answers :=
  (Kind.words names).map fun n =>
    (⟨"None", type ++ "." ++ n⟩, typeFault (type ++ "." ++ n ++ "() takes " ++ amount ++ " (3 given)"))

/-- The answers of moments and of how they differ. -/
def momentAnswers : Catalogue.Answers :=
  let nothing := "no arguments"
  taking nothing "date" "ctime isocalendar isoformat isoweekday timetuple toordinal weekday" ++
    taking nothing "datetime" "ctime date dst isocalendar isoweekday time timestamp timetuple timetz toordinal" ++
    taking nothing "datetime" "tzname utcoffset utctimetuple weekday" ++
    taking nothing "timedelta" "total_seconds" ++ taking nothing "timezone" "__getinitargs__" ++
    taking "exactly one argument" "timezone" "dst fromutc tzname utcoffset" ++
    alike "None" "date.strftime datetime.strftime" (typeFault "strftime() takes exactly 1 argument (3 given)") ++
    alike "None" "datetime.isoformat" (typeFault "isoformat() takes at most 2 arguments (3 given)") ++
    alike "None" "datetime.astimezone" (typeFault "astimezone() takes at most 1 argument (3 given)") ++
    alike "None" "date.replace datetime.replace" (wholes [.request, .response, .record] withinWord)

/-- The answers of functions that come with the library's types. -/
def typeAnswers : Catalogue.Answers :=
  alike "None" "date.__new__" (Attribute.noType "datetime.date") ++
    alike "None" "datetime.__new__" (Attribute.noType "datetime.datetime") ++
    alike "None" "timezone.__new__" (Attribute.noType "datetime.timezone") ++
    alike "None" "ContextVar.__new__" (Attribute.noType "_contextvars.ContextVar") ++
    alike "None" "date.fromisocalendar datetime.fromisocalendar" (wholes [.request, .response, .record] withinDate) ++
    alike "None" "date.fromordinal datetime.fromordinal"
      (typeFault "fromordinal() takes exactly 1 argument (3 given)") ++
    alike "None" "date.fromisoformat" (typeFault "date.fromisoformat() takes exactly one argument (3 given)") ++
    alike "None" "date.fromtimestamp" (typeFault "date.fromtimestamp() takes exactly one argument (3 given)") ++
    alike "None" "date.today" (typeFault "date.today() takes no arguments (3 given)") ++
    alike "None" "datetime.combine"
      (.rejects .request "TypeError" "combine() argument 1 must be datetime.date, not " "" .byWord) ++
    alike "None" "datetime.fromisoformat" (typeFault "datetime.fromisoformat() takes exactly one argument (3 given)") ++
    alike "None" "datetime.fromtimestamp" (typeFault "fromtimestamp() takes at most 2 arguments (3 given)") ++
    alike "None" "datetime.now" (typeFault "now() takes at most 1 argument (3 given)") ++
    alike "None" "datetime.strptime" (typeFault "strptime() takes exactly 2 arguments (3 given)") ++
    alike "None" "datetime.today" (typeFault "datetime.today() takes no arguments (3 given)") ++
    alike "None" "datetime.utcfromtimestamp" (typeFault "utcfromtimestamp() takes exactly 1 argument (3 given)") ++
    alike "None" "datetime.utcnow" (typeFault "datetime.utcnow() takes no arguments (3 given)") ++
    alike "None" "ContextVar.get" (typeFault "get expected at most 1 argument, got 3") ++
    alike "None" "ContextVar.set" (typeFault "ContextVar.set() takes exactly one argument (3 given)") ++
    alike "None" "ContextVar.reset" (typeFault "ContextVar.reset() takes exactly one argument (3 given)") ++
    alike "None" "Pattern.findall Pattern.finditer Pattern.fullmatch Pattern.match Pattern.scanner Pattern.search"
      (wholes [.response, .record] (withinWords "OverflowError" "Python int too large to convert to C ssize_t")) ++
    alike "None" "Pattern.split" (typeFault "split() takes at most 2 arguments (3 given)") ++
    alike "None" "Pattern.sub Pattern.subn" (noWhole .record) ++
    alike "None" "Pattern.__copy__" (typeFault "Pattern.__copy__() takes no arguments (3 given)") ++
    alike "None" "Pattern.__deepcopy__" (typeFault "Pattern.__deepcopy__() takes exactly one argument (3 given)")

/-- All answers. -/
def answers : Catalogue.Answers :=
  ownAnswers ++ frameworkAnswers ++ traceAnswers ++ fileAnswers ++ libraryAnswers ++ momentAnswers ++ typeAnswers

end ActivityLog.Builtin
