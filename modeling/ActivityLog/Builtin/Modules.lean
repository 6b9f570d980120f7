import ActivityLog.Builtin.Fields
import ActivityLog.Builtin.Answers
import ActivityLog.Builtin.FrameworkModules
import ActivityLog.Builtin.InnerModules
import ActivityLog.Builtin.LoaderModules
import ActivityLog.Builtin.UsedModules

/-!
# The modules that references can name

The application's own modules with what they define and take over. `catalogue` puts the built-in functions among them,
and the modules that these take from beside them.
-/

namespace ActivityLog.Builtin

/-- The logger of a module. -/
def ownLogger : Entry := .object "logger" ("structlog._config", "BoundLoggerLazyProxy")

/-- What makes the objects of a model that cannot be changed fit to be looked up by. -/
def frozenHash : Entry :=
  .known "__hash__" "pydantic._internal._model_construction" "make_hash_func.<locals>.hash_func" "self"

/-- A type of texts with names. Some of what all types of named values define comes before what texts have. -/
def namedTexts (name : String) (members : List (String × String)) : Entry :=
  .ofType name .choices (some ("enum", "Enum")) (members.map (fun (n, value) => .choice n value) ++ [
    .held .text "name value _name_ _value_", .data (.instance "bool") "_use_args_",
    .known "__format__" "enum" "Enum.__format__" "self format_spec",
    .known "__new__" "enum" "Enum.__new__" "cls value", .known "__repr__" "enum" "Enum.__repr__" "self",
    .known "__str__" "enum" "Enum.__str__" "self", .sameAs "_new_member_" ("builtins", "str") "__new__",
    .sameAs "_member_type_" ("builtins", "str") "__class__", .sameAs "_value_repr_" ("builtins", "str") "__repr__",
    .also ("builtins", "str")])

/-- The application's own modules. -/
def ownModules : List Module := [
  ⟨"netlog", [
    .text "__version__" "1.0.0", .data .list "__all__",
    .shared "netlog.core.pipeline" "NetworkLogPipeline PipelineState RequestLifecycle",
    .shared "netlog.models.fields" "FieldConfig FieldDescriptor FieldSource HeaderSource RequestFieldSource",
    .shared "netlog.models.fields" "ResponseFieldSource SelfSource SpecialSource StaticSource TimeSource",
    .shared "netlog.models.interfaces" "ILoggingCore", .shared "netlog.network" "NetworkLogging"]⟩,
  ⟨"netlog.api", []⟩,
  ⟨"netlog.api.middleware", [
    .data .list "__all__", .shared "netlog.api.middleware.logging" "NetworkLoggingMiddleware ResponseHandle"]⟩,
  ⟨"netlog.api.middleware.logging", [
    .ofType "ResponseHandle" .type none [
      .function "__init__" "self", .function "__getattr__" "self name", .function "header" "self name",
      .function "on_completion" "self listener", .function "bind" "self response", .function "fire_completion" "self",
      .function "_after_response" "self background"],
    .ofType "NetworkLoggingMiddleware" .type (some ("starlette.middleware.base", "BaseHTTPMiddleware")) [
      .function "__init__" "self app core? config? settings?", .function "dispatch" "self request call_next"],
    ownLogger, .data .number "SERVER_ERROR_STATUS",
    .alias "ASGIApp" ("typing", "_CallableGenericAlias") (some ("collections.abc", "Callable"))
      "Callable() takes no arguments",
    .shared "netlog.config.settings" "NetlogSettings get_settings",
    .shared "netlog.core.pipeline" "NetworkLogPipeline", .shared "netlog.infrastructure.logging.config" "get_logger",
    .shared "netlog.infrastructure.logging.core" "StructlogLoggingCore", .shared "netlog.models.fields" "FieldConfig",
    .shared "netlog.models.interfaces" "ILoggingCore", .shared "starlette.background" "BackgroundTask",
    .shared "starlette.middleware.base" "BaseHTTPMiddleware", .shared "starlette.requests" "Request",
    .shared "starlette.responses" "Response", .shared "typing" "Any Callable List Optional"]⟩,
  ⟨"netlog.config", []⟩,
  ⟨"netlog.config.fields", [
    .function "default_pre_fields" "component_name? layer?", .function "default_post_fields" "",
    .function "default_field_config" "component_name? layer?", .function "load_field_config" "path",
    .shared "datetime" "datetime timezone", .shared "netlog.exceptions" "FieldConfigError",
    .shared "netlog.models.fields" "FieldConfig FieldDescriptor FieldSource HeaderSource LogRecord SelfSource",
    .shared "netlog.models.fields" "SpecialSource StaticSource TimeSource", .shared "pathlib" "Path",
    .shared "pydantic_core._pydantic_core" "ValidationError", .shared "typing" "Any List Optional Union",
    .modules "json uuid"]⟩,
  ⟨"netlog.config.settings", [
    namedTexts "LogLevel" ((Kind.words "DEBUG INFO WARNING ERROR CRITICAL").map fun level => (level, level)),
    namedTexts "LogFormat" [("JSON", "json"), ("CONSOLE", "console")],
    .ofType "LoggingSettings" .type (some ("pydantic_settings.main", "BaseSettings")) [
      .classMethod "_normalize_level" "cls value", .data .table "model_config", .held .nothing "pattern",
      .held (.choice "LogLevel") "level", .held (.choice "LogFormat") "format"],
    .ofType "NetworkLogSettings" .type (some ("pydantic_settings.main", "BaseSettings")) [
      .data .table "model_config", .held (.instance "bool") "enabled", .held .text "level component_name layer",
      .held .nothing "field_config_path"],
    .ofType "NetlogSettings" .type (some ("pydantic_settings.main", "BaseSettings")) [
      .data .table "model_config", .holds "logging" ("netlog.config.settings", "LoggingSettings"),
      .holds "network" ("netlog.config.settings", "NetworkLogSettings")],
    .function "get_settings" "", .function "reset_settings" "",
    .part "_settings_instance" .settings [("netlog.config.settings", "NetlogSettings")],
    .shared "enum" "Enum", .shared "pydantic.fields" "Field",
    .shared "pydantic.functional_validators" "field_validator", .shared "pydantic_settings.main" "BaseSettings",
    .shared "typing" "Optional"]⟩,
  ⟨"netlog.core", [
    .text "NETWORK_LOG_LEVEL" "info", .text "RECORD_FIELD" "log_record", .data .number "PRE_TIME_DEFAULT",
    .data .list "__all__",
    .shared "netlog.core.context" "ContextAdapter",
    .shared "netlog.core.defaults" "apply_defaults",
    .shared "netlog.core.pipeline" "NetworkLogPipeline PipelineState RequestLifecycle",
    .shared "netlog.core.resolution" "ResolutionPass store_value",
    .shared "netlog.core.resolver" "Phase UNRESOLVED resolve_source"]⟩,
  ⟨"netlog.core.context", [
    .ofType "ContextAdapter" .type none [
      .function "__init__" "self target", .function "_detect_header_reader" "target",
      .function "_detect_completion_registrar" "target", .function "read_header" "self name",
      .function "read_field" "self name", .function "read_stored" "self name",
      .function "write_field" "self name value", .function "on_completion" "self listener"],
    .function "_empty_header" "name", .function "_mapping_header_reader" "headers", ownLogger,
    .text "COMPLETION_EVENT" "finish",
    .alias "CompletionListener" ("typing", "_CallableGenericAlias") (some ("collections.abc", "Callable"))
      "Callable() takes no arguments",
    .shared "collections.abc" "Mapping MutableMapping", .shared "netlog.infrastructure.logging.config" "get_logger",
    .shared "typing" "Any Callable Optional"]⟩,
  ⟨"netlog.core.defaults", [
    .function "apply_defaults" "descriptor record fallbacks phase", ownLogger,
    .alias "FallbackQueue" ("typing", "_GenericAlias") (some ("builtins", "dict"))
      "Type Dict cannot be instantiated; use dict() instead",
    .shared "netlog.core.resolver" "Phase",
    .shared "netlog.infrastructure.logging.config" "get_logger",
    .shared "netlog.models.fields" "FieldDescriptor FieldFunction LogRecord", .shared "typing" "Dict Optional"]⟩,
  ⟨"netlog.core.pipeline", [
    namedTexts "PipelineState" [("CREATED", "created"), ("PRE_RESOLVED", "pre_resolved"),
      ("AWAITING_COMPLETION", "awaiting_completion"), ("POST_RESOLVED", "post_resolved"), ("EMITTED", "emitted")],
    .ofType "RequestLifecycle" .type none [
      .function "__init__" "self pipeline request response record", .function "resolve_pre" "self",
      .function "await_completion" "self", .function "complete" "self *", .property "record"],
    .ofType "NetworkLogPipeline" .type none [
      .function "__init__" "self core config? level?", .function "start" "self request response",
      .function "handle" "self request response call_next", .function "emit" "self record",
      .holds "core" ("netlog.infrastructure.logging.core", "StructlogLoggingCore"),
      .holds "config" ("netlog.models.fields", "FieldConfig"), .held .text "level",
      .doing "pre_pass" ("netlog.core.resolution", "ResolutionPass") [("run", .runPass .pre)],
      .doing "post_pass" ("netlog.core.resolution", "ResolutionPass") [("run", .runPass .post)]],
    .function "_as_context" "host", ownLogger, .text "NETWORK_LOG_LEVEL" "info",
    .text "RECORD_FIELD" "log_record",
    .renamed "MappingProxyType" "builtins" "mappingproxy", .shared "enum" "Enum",
    .shared "netlog.core.context" "ContextAdapter", .shared "netlog.core.resolution" "ResolutionPass",
    .shared "netlog.core.resolver" "Phase", .shared "netlog.infrastructure.logging.config" "get_logger",
    .shared "netlog.models.fields" "FieldConfig LogRecord", .shared "netlog.models.interfaces" "ILoggingCore",
    .shared "typing" "Any Callable Mapping Optional"]⟩,
  ⟨"netlog.core.resolution", [
    .ofType "ResolutionPass" .type none [
      .function "__init__" "self descriptors phase", .function "run" "self request response record",
      .function "_run_fallbacks" "self fallbacks request response record", .function "_log_failure" "self name error",
      .held .tuple "descriptors", .held (.choice "Phase") "phase"],
    .function "store_value" "record name value", ownLogger,
    .shared "netlog.core.context" "ContextAdapter", .shared "netlog.core.defaults" "FallbackQueue apply_defaults",
    .shared "netlog.core.resolver" "Phase UNRESOLVED resolve_source",
    .shared "netlog.infrastructure.logging.config" "get_logger",
    .shared "netlog.models.fields" "FieldDescriptor LogRecord SelfSource SpecialSource",
    .shared "typing" "Any Dict List Sequence Tuple"]⟩,
  ⟨"netlog.core.resolver", [
    namedTexts "Phase" [("PRE", "pre"), ("POST", "post")],
    .ofType "_Unresolved" .type none [.function "__repr__" "self", .function "__bool__" "self"],
    .function "_resolve_header" "source phase request response record",
    .function "_resolve_field" "source phase request response record",
    .function "_resolve_static" "source phase request response record",
    .function "_resolve_time" "source phase request response record",
    .function "_resolve_deferred" "source phase request response record",
    .function "resolve_source" "descriptor phase request response record", .data .number "PRE_TIME_DEFAULT",
    .object "UNRESOLVED" ("netlog.core.resolver", "_Unresolved"), .data .table "_RESOLVERS", .shared "enum" "Enum",
    .shared "netlog.core.context" "ContextAdapter",
    .shared "netlog.models.fields" "FieldDescriptor FieldSource HeaderSource LogRecord SelfSource SpecialSource",
    .shared "netlog.models.fields" "StaticSource TimeSource", .shared "typing" "Any Callable Dict"]⟩,
  ⟨"netlog.exceptions", [
    .ofType "NetlogError" .type (some ("builtins", "Exception")) [
      .function "__init__" "self message error_code? context?", .function "__str__" "self"],
    .ofType "ConfigurationError" .type (some ("netlog.exceptions", "NetlogError")) [
      .function "__init__" "self message error_code? context?"],
    .ofType "FieldConfigError" .type (some ("netlog.exceptions", "ConfigurationError")) [
      .function "__init__" "self message error_code? context?"],
    .shared "typing" "Any Dict Optional"]⟩,
  ⟨"netlog.infrastructure", []⟩,
  ⟨"netlog.infrastructure.logging", [
    .data .list "__all__",
    .shared "netlog.infrastructure.logging.config" "NetlogLogger configure_logging get_logger get_logging_config",
    .shared "netlog.infrastructure.logging.coordinator" "LoggingCoordinator RequestContext request_context"]⟩,
  ⟨"netlog.infrastructure.logging.config", [
    .ofType "NetlogLogger" .type none [
      .function "__init__" "self level? log_format? log_pattern?", .function "configure_structlog" "self",
      .function "set_level" "self level", .function "set_log_pattern" "self pattern",
      .function "render" "self logger method_name event_dict", .function "apply_pattern" "pattern event_dict",
      .function "add_request_context" "logger method_name event_dict",
      .function "add_trace_context" "logger method_name event_dict", .held .text "level log_format",
      .part "log_pattern" .pattern [("builtins", "str")],
      .callable "_json_renderer" ("structlog.processors", "JSONRenderer"),
      .callable "_console_renderer" ("structlog.dev", "ConsoleRenderer")],
    .function "configure_logging" "level? log_format? log_pattern?", .function "get_logging_config" "",
    .function "get_logger" "name", .moduleAs "trace" "opentelemetry.trace", .text "LOGGER_NAMESPACE" "netlog",
    .object "_PATTERN_PLACEHOLDER" ("re", "Pattern"),
    .part "_logger_config" .configuration [("netlog.infrastructure.logging.config", "NetlogLogger")],
    .shared "typing" "Any Dict Optional",
    .modules "logging re structlog"]⟩,
  ⟨"netlog.infrastructure.logging.coordinator", [
    .ofType "RequestContext" .type none [
      .function "__init__" "self correlation_id? start_time? attributes? detached?",
      .function "log_message" "self level message **", .function "__enter__" "self",
      .function "__exit__" "self exc_type exc_val exc_tb", .data (.instance "bool") "detached",
      .function "__eq__" "self other", .function "__repr__" "self", .data .nothing "__hash__",
      .data .tuple "__match_args__", .data .table "__dataclass_fields__",
      .data (.instance "_DataclassParams") "__dataclass_params__", .property "logger"],
    .ofType "LoggingCoordinator" .type none [
      .function "start_request" "self correlation_id? **", .function "get_context" "", .function "detached_context" ""],
    .text "MESSAGE_LOGGER_NAME" "netlog.message", .object "request_context" ("_contextvars", "ContextVar"),
    .shared "_contextvars" "ContextVar",
    .shared "dataclasses" "dataclass field", .shared "datetime" "datetime timezone",
    .shared "typing" "Any Dict Optional", .modules "structlog uuid"]⟩,
  ⟨"netlog.infrastructure.logging.core", [
    .ofType "StructlogLoggingCore" .type (some ("netlog.models.interfaces", "ILoggingCore")) [
      .function "__init__" "self config? settings?", .function "init_log" "self",
      .function "get_pre_log_config" "self", .function "get_post_log_config" "self",
      .function "bind_log_functions" "self request", .function "write_static_fields" "self record",
      .function "send_log" "self level record", .function "set_logging_level" "self level",
      .function "set_log_pattern" "self pattern", .function "override_field" "self name value",
      .function "get_correlation_object" "self", .function "log_message" "self level message **",
      .holds "settings" ("netlog.config.settings", "NetlogSettings"),
      .holds "logging_config" ("netlog.infrastructure.logging.config", "NetlogLogger"),
      .holds "field_config" ("netlog.models.fields", "FieldConfig"),
      .holds "coordinator" ("netlog.infrastructure.logging.coordinator", "LoggingCoordinator"),
      .held .table "_overrides",
      .standing "_network_logger" ("structlog._config", "BoundLoggerLazyProxy") ("structlog.stdlib", "BoundLogger")],
    .function "normalize_level" "level", .function "_level_or_info" "level",
    .text "NETWORK_EVENT" "network_activity", .text "NETWORK_LOGGER_NAME" "netlog.network",
    .data .tuple "_LEVELS", .data .table "_LEVEL_ALIASES",
    .shared "netlog.config.fields" "default_field_config load_field_config",
    .shared "netlog.config.settings" "NetlogSettings get_settings", .shared "netlog.core.context" "ContextAdapter",
    .shared "netlog.exceptions" "ConfigurationError",
    .shared "netlog.infrastructure.logging.config" "configure_logging get_logger",
    .shared "netlog.infrastructure.logging.coordinator" "LoggingCoordinator RequestContext",
    .shared "netlog.models.fields" "FieldConfig FieldDescriptor", .shared "netlog.models.interfaces" "ILoggingCore",
    .shared "typing" "Any Dict List Optional"]⟩,
  ⟨"netlog.models", [
    .data .list "__all__",
    .shared "netlog.models.fields" "FieldConfig FieldDescriptor FieldFunction FieldSource FieldSourceSpec",
    .shared "netlog.models.fields" "HeaderSource LogRecord RequestFieldSource ResponseFieldSource SelfSource",
    .shared "netlog.models.fields" "SpecialSource StaticSource TimeSource resolve_callable_reference",
    .shared "netlog.models.interfaces" "ILoggingCore"]⟩,
  ⟨"netlog.models.fields", [
    .ofType "HeaderSource" .type (some ("pydantic.main", "BaseModel")) [.data .table "model_config", frozenHash],
    .ofType "StaticSource" .type (some ("pydantic.main", "BaseModel")) [.data .table "model_config", frozenHash],
    .ofType "FieldSource" .type (some ("pydantic.main", "BaseModel")) [.data .table "model_config", frozenHash],
    .ofType "SelfSource" .type (some ("pydantic.main", "BaseModel")) [.data .table "model_config", frozenHash],
    .ofType "TimeSource" .type (some ("pydantic.main", "BaseModel")) [
      .classMethod "_resolve_reference" "cls value", .data .table "model_config", frozenHash],
    .ofType "SpecialSource" .type (some ("pydantic.main", "BaseModel")) [.data .table "model_config", frozenHash],
    .ofType "FieldDescriptor" .type (some ("pydantic.main", "BaseModel")) [
      .classMethod "_resolve_fallback" "cls value", .data .table "model_config", frozenHash],
    .ofType "FieldConfig" .type (some ("pydantic.main", "BaseModel")) [
      .data .table "model_config", frozenHash, .held .tuple "pre post"],
    .function "resolve_callable_reference" "value",
    .aliasOfAlias "FieldSourceSpec" ("typing", "_AnnotatedAlias") ("typing", "_UnionGenericAlias") ("typing", "Union")
      "Cannot instantiate typing.Union",
    .alias "LogRecord" ("typing", "_GenericAlias") (some ("builtins", "dict"))
      "Type Dict cannot be instantiated; use dict() instead",
    .alias "FieldFunction" ("typing", "_CallableGenericAlias") (some ("collections.abc", "Callable"))
      "Callable() takes no arguments",
    .renamed "RequestFieldSource" "netlog.models.fields" "FieldSource",
    .renamed "ResponseFieldSource" "netlog.models.fields" "FieldSource",
    .shared "netlog.exceptions" "FieldConfigError", .shared "pydantic.config" "ConfigDict",
    .shared "pydantic.fields" "Field", .shared "pydantic.functional_validators" "field_validator",
    .shared "pydantic.main" "BaseModel", .shared "typing" "Annotated Any Callable Dict Literal Optional Tuple Union",
    .modules "importlib"]⟩,
  ⟨"netlog.models.interfaces", [
    .ofType "ILoggingCore" .type (some ("abc", "ABC")) [
      .function "init_log" "self", .function "get_pre_log_config" "self", .function "get_post_log_config" "self",
      .function "bind_log_functions" "self request", .function "write_static_fields" "self record",
      .function "send_log" "self level record", .function "set_logging_level" "self level",
      .function "set_log_pattern" "self pattern", .function "override_field" "self name value",
      .function "get_correlation_object" "self", .function "log_message" "self level message **"],
    .shared "abc" "ABC abstractmethod", .shared "netlog.models.fields" "FieldDescriptor",
    .shared "typing" "Any Dict List Optional"]⟩,
  ⟨"netlog.network", [
    .ofType "NetworkLogging" .type none [
      .function "__init__" "self core? config?", .function "set_core_logger" "self core",
      .function "set_config" "self config", .function "log_network" "self request response call_next",
      .function "install" "self app", .function "set_logging_level" "self level",
      .function "set_log_pattern" "self pattern", .function "override_field" "self name value",
      .function "get_correlation_object" "self", .function "log_message" "self level message **",
      .part "core" .core [("netlog.infrastructure.logging.core", "StructlogLoggingCore")],
      .part "_core" .madeCore [("netlog.infrastructure.logging.core", "StructlogLoggingCore")],
      .part "pipeline" .pipeline [("netlog.core.pipeline", "NetworkLogPipeline")],
      .part "_pipeline" .madePipeline [("netlog.core.pipeline", "NetworkLogPipeline")],
      .part "_config" .fields [("netlog.models.fields", "FieldConfig")], .property "core pipeline"],
    .shared "collections.abc" "Mapping", .shared "netlog.core.pipeline" "NetworkLogPipeline",
    .shared "netlog.infrastructure.logging.core" "StructlogLoggingCore", .shared "netlog.models.fields" "FieldConfig",
    .shared "netlog.models.interfaces" "ILoggingCore", .shared "typing" "Any Callable Optional Union",
    .object "_default" ("netlog.network", "NetworkLogging"),
    .ofObject "NetworkLogging" "get_correlation_object install log_message log_network override_field set_config",
    .ofObject "NetworkLogging" "set_core_logger set_log_pattern set_logging_level"]⟩]

/-- All modules and their names. -/
def catalogue : Catalogue :=
  .ofModules (ownModules ++ usedModules ++ innerModules ++ loaderModules ++ frameworkModules) answers
    [(moduleName, members)]

end ActivityLog.Builtin
