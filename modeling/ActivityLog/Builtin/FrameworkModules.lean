import ActivityLog.Descriptor.Catalogue

/-!
# Modules of frameworks

What the application's own modules take from the frameworks: models and settings, requests and responses, logs and
traces.
-/

namespace ActivityLog.Builtin

/-- The modules of models and settings. -/
def modelModules : List Module := [
  ⟨"pydantic.main", [
    .ofType "BaseModel" .type none [
      .construct "BaseModel.__init__" "self", .classMethod "construct" "cls _fields_set? **",
      .classMethod "from_orm" "cls obj", .classMethod "model_construct" "cls _fields_set? **",
      .classMethod "model_json_schema" "cls by_alias? ref_template? schema_generator? mode?",
      .classMethod "model_parametrized_name" "cls params", .classMethod "model_rebuild" "cls",
      .classMethod "model_validate" "cls obj", .classMethod "model_validate_json" "cls json_data",
      .classMethod "model_validate_strings" "cls obj", .classMethod "parse_file" "cls path",
      .classMethod "parse_obj" "cls obj", .classMethod "parse_raw" "cls b",
      .classMethod "schema" "cls by_alias? ref_template?", .classMethod "schema_json" "cls",
      .classMethod "update_forward_refs" "cls **", .classMethod "validate" "cls value", .function "__init__" "self",
      .function "copy" "self", .function "dict" "self", .function "json" "self", .function "model_copy" "self",
      .function "model_dump" "self", .function "model_dump_json" "self", .function "model_post_init" "self context",
      .classMethod "__class_getitem__" "cls typevar_values", .classMethod "_get_value" "cls *",
      .classMethod "__get_pydantic_core_schema__" "cls source handler",
      .classMethod "__get_pydantic_json_schema__" "cls core_schema handler",
      .classMethod "__pydantic_init_subclass__" "cls **", .classMethod "__pydantic_on_complete__" "cls",
      .function "__copy__" "self", .function "__deepcopy__" "self memo?", .function "__delattr__" "self item",
      .function "__eq__" "self other", .function "__getattr__" "self item", .function "__getstate__" "self",
      .function "__iter__" "self", .function "__replace__" "self **", .function "__repr__" "self",
      .function "__repr_args__" "self", .function "__setattr__" "self name value",
      .function "__setstate__" "self state", .function "__str__" "self", .function "_calculate_keys" "self * **",
      .function "_copy_and_set_values" "self * **", .function "_iter" "self **",
      .function "_setattr_handler" "self name value",
      .known "__pretty__" "pydantic._internal._repr" "Representation.__pretty__" "self fmt **",
      .known "__repr_name__" "pydantic._internal._repr" "Representation.__repr_name__" "self",
      .known "__repr_recursion__" "pydantic._internal._repr" "Representation.__repr_recursion__" "self object",
      .known "__repr_str__" "pydantic._internal._repr" "Representation.__repr_str__" "self join_str",
      .known "__rich_repr__" "pydantic._internal._repr" "Representation.__rich_repr__" "self",
      .data .table "model_computed_fields model_config model_fields __fields__ __private_attributes__",
      .data .table "__pydantic_computed_fields__ __pydantic_core_schema__ __pydantic_fields__",
      .data .table "__pydantic_extra_info__ __pydantic_generic_metadata__ __pydantic_setattr_handlers__",
      .data (.instance "set") "__class_vars__",
      .data (.instance "bool") "__pydantic_complete__ __pydantic_custom_init__ __pydantic_root_model__",
      .data .nothing "__hash__ __pydantic_parent_namespace__ __pydantic_post_init__",
      .data (.instance "SchemaSerializer") "__pydantic_serializer__",
      .data (.instance "SchemaValidator") "__pydantic_validator__",
      .held .nothing "__pydantic_extra__ __pydantic_private__ model_extra",
      .held (.instance "set") "__fields_set__ __pydantic_fields_set__ model_fields_set",
      .data (.instance "member_descriptor") "__pydantic_extra__ __pydantic_fields_set__ __pydantic_private__",
      .data .tuple "__slots__", .object "__signature__" ("inspect", "Signature"),
      .object "__pydantic_decorators__" ("pydantic._internal._decorators", "DecoratorInfos"),
      .property "__fields_set__ model_extra model_fields_set"]]⟩,
  ⟨"pydantic._internal._model_construction", [
    .ofType "ModelMetaclass" .type (some ("abc", "ABCMeta")) [
      .function "__dir__" "self", .function "__getattr__" "self item", .function "__instancecheck__" "self instance",
      .function "__new__" ("mcs cls_name bases namespace __pydantic_generic_metadata__? " ++
        "__pydantic_reset_parent_namespace__? _create_model_module? **"),
      .classMethod "__prepare__" "cls * **", .function "__subclasscheck__" "self subclass",
      .known "_collect_bases_data" "pydantic._internal._model_construction" "ModelMetaclass._collect_bases_data"
        "bases",
      .property "__fields__ __pydantic_fields_complete__"]]⟩,
  ⟨"pydantic._internal._decorators", [
    .ofType "DecoratorInfos" .type none [
      .held .table "computed_fields field_serializers field_validators model_serializers model_validators",
      .held .table "root_validators validators", .function "__eq__" "self other", .function "__init__" "self **",
      .function "__repr__" "self", .function "build" "model_dc", .function "update_from_config" "self config_wrapper",
      .data .table "__dataclass_fields__", .data .tuple "__match_args__", .data .nothing "__hash__"]]⟩,
  ⟨"pydantic.config", [
    .ofType "ConfigDict" .type (some ("builtins", "dict")) [
      .data (.instance "bool") "__total__", .data .tuple "__orig_bases__",
      .data (.instance "frozenset") "__mutable_keys__ __optional_keys__ __readonly_keys__ __required_keys__"]]⟩,
  ⟨"pydantic.fields", [
    .function "Field" "default?"]⟩,
  ⟨"pydantic.functional_validators", [
    .function "field_validator" "field *"]⟩,
  ⟨"pydantic_core._pydantic_core", [
    .ofType "ValidationError" .type (some ("builtins", "ValueError")) [
      .data .looseRoutine "__reduce__ error_count errors json", .data .looseOperator "__repr__ __str__",
      .data .routine "from_exception_data", .data (.instance "getset_descriptor") "title"]]⟩,
  ⟨"pydantic_settings.main", [
    .ofType "BaseSettings" .type (some ("pydantic.main", "BaseModel")) [
      .function "__init__"
        "__pydantic_self__ _case_sensitive? _nested_model_default_partial_update? _env_prefix? _env_file? * **",
      .classMethod "_settings_build_values" "cls sources init_kwargs", .classMethod "_settings_init_sources" "cls **",
      .classMethod "_settings_log_debug" "cls", .classMethod "settings_cached" "cls **",
      .classMethod "settings_clear_cache" "cls",
      .classMethod "settings_customise_sources"
        "cls settings_cls init_settings env_settings dotenv_settings file_secret_settings"]]⟩]

/-- The modules of requests and responses. -/
def webModules : List Module := [
  ⟨"starlette.background", [
    .ofType "BackgroundTask" .type none [
      .function "__init__" "self func * **", .function "__call__" "self"]]⟩,
  ⟨"starlette.middleware.base", [
    .ofType "BaseHTTPMiddleware" .type none [
      .function "__init__" "self app dispatch?", .function "__call__" "self scope receive send",
      .function "dispatch" "self request call_next"]]⟩,
  ⟨"starlette.requests", [
    .ofType "HTTPConnection" .type (some ("collections.abc", "Mapping")) [
      .function "__init__" "self scope receive?", .function "__getitem__" "self key", .function "__iter__" "self",
      .function "__len__" "self", .function "url_for" "self name **",
      .known "__init_subclass__" "typing" "Generic.__init_subclass__" "cls * **",
      .data (.instance "bool") "_is_protocol", .data .tuple "__orig_bases__ __parameters__",
      .property "app auth base_url client cookies headers path_params query_params session state url user"],
    .ofType "Request" .type (some ("starlette.requests", "HTTPConnection")) [
      .function "__init__" "self scope receive? send?", .function "body" "self", .function "close" "self",
      .function "_get_form" "self =", .function "form" "self =", .function "is_disconnected" "self",
      .function "json" "self",
      .function "send_early_hints" "self links", .function "send_push_promise" "self path", .function "stream" "self",
      .property "method receive"]]⟩,
  ⟨"starlette.responses", [
    .ofType "Response" .type none [
      .function "__init__" "self content? status_code? headers? media_type? background?",
      .function "_wrap_websocket_denial_send" "self send",
      .function "__call__" "self scope receive send", .function "delete_cookie" "self key",
      .function "init_headers" "self headers?", .function "render" "self content",
      .function "set_cookie" "self key value?", .data .text "charset", .data .nothing "media_type",
      .property "headers"]]⟩]

/-- The modules of logs. -/
def logModules : List Module := [
  ⟨"structlog", [
    .data .module "contextvars testing threadlocal tracebacks types typing",
    .shared "structlog._config" "configure configure_once get_config get_context get_logger getLogger is_configured",
    .shared "structlog._config" "reset_defaults wrap_logger",
    .shared "structlog._base" "BoundLoggerBase get_context", .shared "structlog._generic" "BoundLogger",
    .shared "structlog._native" "make_filtering_bound_logger",
    .shared "structlog._output" "BytesLogger BytesLoggerFactory PrintLogger PrintLoggerFactory WriteLogger",
    .shared "structlog._output" "WriteLoggerFactory", .shared "structlog.exceptions" "DropEvent",
    .shared "structlog.testing" "ReturnLogger ReturnLoggerFactory", .data .text "__author__ __title__"]⟩,
  ⟨"structlog._base", [
    .ofType "BoundLoggerBase" .type none [
      .function "__eq__" "self other", .function "__init__" "self logger processors context",
      .function "__ne__" "self other", .function "__repr__" "self",
      .function "_process_event" "self method_name event event_kw",
      .function "_proxy_to_logger" "self method_name event? **", .function "bind" "self **", .function "new" "self **",
      .function "try_unbind" "self *", .function "unbind" "self *"],
    .function "get_context" "bound_logger"]⟩,
  ⟨"structlog._config", [
    .ofType "BoundLoggerLazyProxy" .type none [
      .function "__getattr__" "self name", .function "__getstate__" "self",
      .function "__init__" "self logger wrapper_class? processors? context_class? cache_logger_on_first_use?",
      .function "__repr__" "self", .function "__setstate__" "self state", .function "bind" "self **",
      .function "new" "self **", .function "try_unbind" "self *", .function "unbind" "self *"],
    .function "configure" "processors? wrapper_class? context_class? logger_factory? cache_logger_on_first_use?",
    .function "configure_once" "processors? wrapper_class? context_class? logger_factory? cache_logger_on_first_use?",
    .function "get_config" "", .function "get_logger" "* **", .function "is_configured" "",
    .function "reset_defaults" "", .function "wrap_logger" "logger processors? wrapper_class? context_class? * **",
    .renamed "getLogger" "structlog._config" "get_logger"]⟩,
  ⟨"structlog._generic", [
    .ofType "BoundLogger" .type (some ("structlog._base", "BoundLoggerBase")) [
      .function "__getattr__" "self method_name", .function "__getstate__" "self",
      .function "__setstate__" "self state"]]⟩,
  ⟨"structlog._native", [.function "make_filtering_bound_logger" "min_level"]⟩,
  ⟨"structlog._output", [
    .ofType "BytesLogger" .type none [.function "__init__" "self file?", .function "msg" "self message"],
    .ofType "BytesLoggerFactory" .type none [.function "__call__" "self *", .function "__init__" "self file?"],
    .ofType "PrintLogger" .type none [.function "__init__" "self file?", .function "msg" "self message"],
    .ofType "PrintLoggerFactory" .type none [.function "__call__" "self *", .function "__init__" "self file?"],
    .ofType "WriteLogger" .type none [.function "__init__" "self file?", .function "msg" "self message"],
    .ofType "WriteLoggerFactory" .type none [.function "__call__" "self *", .function "__init__" "self file?"]]⟩,
  ⟨"structlog.exceptions", [.ofType "DropEvent" .type (some ("builtins", "BaseException")) []]⟩,
  ⟨"structlog.testing", [
    .ofType "ReturnLogger" .type none [.function "msg" "self * **"],
    .ofType "ReturnLoggerFactory" .type none [.function "__call__" "self *"]]⟩,
  ⟨"structlog.dev", [
    .ofType "ConsoleRenderer" .type none [
      .function "__call__" "self logger name event_dict", .function "__init__" "self **", .function "_repr" "self val",
      .function "get_default_level_styles" "colors?", .property "columns"],
    .ofType "RichTracebackFormatter" .type none [.function "__call__" "self sio exc_info"],
    .function "plain_traceback" "sio exc_info", .function "better_traceback" "sio exc_info",
    .function "set_exc_info" "logger method_name event_dict"]⟩,
  ⟨"structlog.processors", [
    .ofType "CallsiteParameterAdder" .type none [
      .function "__call__" "self logger name event_dict", .function "__init__" "self parameters? additional_ignores?"],
    .ofType "EventRenamer" .type none [
      .function "__call__" "self logger name event_dict", .function "__init__" "self to replace_by?"],
    .ofType "ExceptionPrettyPrinter" .type none [
      .function "__call__" "self logger name event_dict", .function "__init__" "self file? exception_formatter?"],
    .ofType "ExceptionRenderer" .type none [
      .function "__call__" "self logger name event_dict", .function "__init__" "self exception_formatter?"],
    .ofType "JSONRenderer" .type none [
      .function "__call__" "self logger name event_dict", .function "__init__" "self serializer? **"],
    .ofType "KeyValueRenderer" .type none [
      .function "__call__" "self _ __ event_dict",
      .function "__init__" "self sort_keys? key_order? drop_missing? repr_native_str?"],
    .ofType "LogfmtRenderer" .type none [
      .function "__call__" "self _ __ event_dict", .function "__init__" "self sort_keys? key_order? drop_missing? *"],
    .ofType "MaybeTimeStamper" .type none [
      .function "__call__" "self logger name event_dict", .function "__init__" "self fmt? utc? key?"],
    .ofType "StackInfoRenderer" .type none [
      .function "__call__" "self logger name event_dict", .function "__init__" "self additional_ignores?"],
    .ofType "TimeStamper" .type none [
      .function "__call__" "self logger name event_dict", .function "__getstate__" "self",
      .function "__init__" "self fmt? utc? key?", .function "__setstate__" "self state"],
    .ofType "UnicodeDecoder" .type none [
      .function "__call__" "self logger name event_dict", .function "__init__" "self encoding? errors?"],
    .ofType "UnicodeEncoder" .type none [
      .function "__call__" "self logger name event_dict", .function "__init__" "self encoding? errors?"],
    .alias "dict_tracebacks" ("structlog.processors", "ExceptionRenderer") none
      "list indices must be integers or slices, not str",
    .alias "format_exc_info" ("structlog.processors", "ExceptionRenderer") none
      "list indices must be integers or slices, not str",
    .known "add_log_level" "structlog._log_levels" "add_log_level" "logger method_name event_dict",
    .function "_figure_out_exc_info" "v", .function "_json_fallback_handler" "obj",
    .function "_make_stamper" "fmt utc key"]⟩,
  ⟨"structlog.stdlib", [
    .ofType "BoundLogger" .type (some ("structlog._base", "BoundLoggerBase")) [
      .function "_dispatch_to_sync" "self meth event args kw", .function "_proxy_to_logger" "self method_name event? *",
      .function "acritical" "self event * **", .function "addHandler" "self hdlr", .function "adebug" "self event * **",
      .function "aerror" "self event * **", .function "aexception" "self event * **",
      .function "afatal" "self event * **", .function "ainfo" "self event * **",
      .function "alog" "self level event * **", .function "awarning" "self event * **", .function "bind" "self **",
      .function "callHandlers" "self record", .function "critical" "self event? * **",
      .function "debug" "self event? * **", .function "error" "self event? * **",
      .function "exception" "self event? * **", .function "fatal" "self event? * **",
      .function "findCaller" "self stack_info?", .function "getEffectiveLevel" "self",
      .function "handle" "self record", .function "hasHandlers" "self", .function "info" "self event? * **",
      .function "isEnabledFor" "self level", .function "log" "self level event? * **",
      .function "makeRecord" "self name level fn lno msg args exc_info func? extra?", .function "new" "self **",
      .function "removeHandler" "self hdlr", .function "setLevel" "self level", .function "try_unbind" "self *",
      .function "unbind" "self *", .function "warning" "self event? * **",
      .known "warn" "structlog.stdlib" "BoundLogger.warning" "self event? * **",
      .property "disabled handlers level name parent propagate"],
    .ofType "LoggerFactory" .type none [
      .function "__call__" "self *", .function "__init__" "self ignore_frame_names?"],
    .ofType "ExtraAdder" .type none [
      .function "__call__" "self logger name event_dict", .function "__init__" "self allow?"],
    .ofType "PositionalArgumentsFormatter" .type none [
      .function "__call__" "self _ __ event_dict", .function "__init__" "self remove_positional_args?"],
    .ofType "ProcessorFormatter" .type (some ("logging", "Formatter")) [
      .function "__init__" "self processor? processors? foreign_pre_chain? * **", .function "format" "self record",
      .function "remove_processors_meta" "_ __ event_dict", .function "wrap_for_formatter" "logger name event_dict"],
    .known "add_log_level" "structlog._log_levels" "add_log_level" "logger method_name event_dict",
    .known "add_log_level_number" "structlog._log_levels" "add_log_level_number" "logger method_name event_dict",
    .function "add_logger_name" "logger method_name event_dict",
    .function "filter_by_level" "logger method_name event_dict", .function "get_logger" "* **",
    .function "recreate_defaults" "", .function "render_to_log_args_and_kwargs" "_ __ event_dict",
    .function "render_to_log_kwargs" "_ __ event_dict"]⟩]

/-- What spans of both kinds have, apart from what makes them. -/
def spanFunctions : List Entry := [
  .function "add_event" "self name attributes? timestamp?", .function "add_link" "self context attributes?",
  .function "end" "self end_time?", .function "get_span_context" "self", .function "is_recording" "self",
  .function "record_exception" "self exception attributes? timestamp? escaped?",
  .function "set_attribute" "self key value", .function "set_attributes" "self attributes",
  .function "set_status" "self status description?", .function "update_name" "self name"]

/-- What all tracers have. -/
def tracerFunctions : List Entry :=
  let parameters := "self name context? kind? attributes? links? start_time? record_exception? set_status_on_exception?"
  [.function "start_as_current_span" (parameters ++ " end_on_exit?"), .function "start_span" parameters]

/-- How a tracer is asked for. -/
def tracerParameters : String :=
  "self instrumenting_module_name instrumenting_library_version? schema_url? attributes?"

/-- The modules of traces. -/
def traceModules : List Module := [
  ⟨"opentelemetry.trace", [
    .ofType "_LinkBase" .type (some ("abc", "ABC")) [
      .function "__init__" "self context", .property "attributes context"],
    .ofType "Link" .type (some ("opentelemetry.trace", "_LinkBase")) [
      .function "__init__" "self context attributes?", .property "attributes dropped_attributes"],
    .ofType "SpanKind" .type (some ("enum", "Enum")) [
      .object "INTERNAL" ("opentelemetry.trace", "SpanKind"), .object "SERVER" ("opentelemetry.trace", "SpanKind"),
      .object "CLIENT" ("opentelemetry.trace", "SpanKind"), .object "PRODUCER" ("opentelemetry.trace", "SpanKind"),
      .object "CONSUMER" ("opentelemetry.trace", "SpanKind")],
    .ofType "TracerProvider" .type (some ("abc", "ABC")) [.function "get_tracer" tracerParameters],
    .ofType "NoOpTracerProvider" .type (some ("opentelemetry.trace", "TracerProvider")) [
      .function "get_tracer" tracerParameters],
    .ofType "_DefaultTracerProvider" .type (some ("opentelemetry.trace", "NoOpTracerProvider")) [
      .data .text "__deprecated__"],
    .ofType "ProxyTracerProvider" .type (some ("opentelemetry.trace", "TracerProvider")) [
      .function "get_tracer" tracerParameters],
    .ofType "Tracer" .type (some ("abc", "ABC")) tracerFunctions,
    .ofType "ProxyTracer" .type (some ("opentelemetry.trace", "Tracer")) [
      .function "__init__" tracerParameters, .function "start_as_current_span" "self * **",
      .function "start_span" "self * **", .property "_tracer"],
    .ofType "NoOpTracer" .type (some ("opentelemetry.trace", "Tracer")) tracerFunctions,
    .ofType "_DefaultTracer" .type (some ("opentelemetry.trace", "NoOpTracer")) [.data .text "__deprecated__"],
    .known "get_current_span" "opentelemetry.trace.propagation" "get_current_span" "context?",
    .known "set_span_in_context" "opentelemetry.trace.propagation" "set_span_in_context" "span context?",
    .known "getLogger" "logging" "getLogger" "name?", .known "cast" "typing" "cast" "typ val",
    .known "deprecated" "typing_extensions" "deprecated" "* **",
    .known "_agnosticcontextmanager" "opentelemetry.util._decorator" "_agnosticcontextmanager" "func",
    .known "_load_provider" "opentelemetry.util._providers" "_load_provider" "provider_environment_variable provider",
    .function "_set_tracer_provider" "tracer_provider log",
    .function "get_tracer"
      "instrumenting_module_name instrumenting_library_version? tracer_provider? schema_url? attributes?",
    .function "get_tracer_provider" "", .function "set_tracer_provider" "tracer_provider",
    .function "use_span" "span end_on_exit? record_exception? set_status_on_exception?",
    .shared "abc" "ABC abstractmethod", .shared "enum" "Enum", .shared "typing" "Mapping Optional Sequence",
    .shared "opentelemetry.trace.span" "DEFAULT_TRACE_OPTIONS DEFAULT_TRACE_STATE INVALID_SPAN INVALID_SPAN_CONTEXT",
    .shared "opentelemetry.trace.span" "INVALID_SPAN_ID INVALID_TRACE_ID NonRecordingSpan Span SpanContext",
    .shared "opentelemetry.trace.span" "TraceFlags TraceState format_span_id format_trace_id",
    .shared "opentelemetry.trace.status" "Status StatusCode",
    .foreignTypes "opentelemetry.attributes" "BoundedAttributes",
    .foreignTypes "opentelemetry.context.context" "Context", .foreignTypes "opentelemetry.util._once" "Once",
    .object "logger" ("logging", "Logger"), .data (.instance "Once") "_TRACER_PROVIDER_SET_ONCE",
    .object "_PROXY_TRACER_PROVIDER" ("opentelemetry.trace", "ProxyTracerProvider"),
    .alias "_Links" ("typing", "_UnionGenericAlias") none "Cannot instantiate typing.Union",
    .data .nothing "_TRACER_PROVIDER", .data .text "OTEL_PYTHON_TRACER_PROVIDER _SPAN_KEY", .data .list "__all__",
    .data .module "context_api propagation types typing", .modules "os"]⟩,
  ⟨"opentelemetry.trace.span", [
    .ofType "Span" .type (some ("abc", "ABC")) (spanFunctions ++ [
      .function "__enter__" "self", .function "__exit__" "self exc_type exc_val exc_tb"]),
    .ofType "NonRecordingSpan" .type (some ("opentelemetry.trace.span", "Span")) (spanFunctions ++ [
      .function "__init__" "self context", .function "__repr__" "self",
      .holds "_context" ("opentelemetry.trace.span", "SpanContext")]),
    .ofType "TraceFlags" .type (some ("builtins", "int")) [
      .data .number "DEFAULT SAMPLED", .classMethod "get_default" "cls", .property "sampled"],
    .ofType "TraceState" .type (some ("collections.abc", "Mapping")) [
      .function "__contains__" "self item", .function "__getitem__" "self key", .function "__init__" "self entries?",
      .function "__iter__" "self", .function "__len__" "self", .function "__repr__" "self",
      .function "add" "self key value", .function "delete" "self key", .classMethod "from_header" "cls header_list",
      .classMethod "get_default" "cls", .function "items" "self", .function "keys" "self",
      .function "to_header" "self", .function "update" "self key value", .function "values" "self"],
    .ofType "SpanContext" .type (some ("builtins", "tuple")) [
      .function "__delattr__" "self *", .function "__getnewargs__" "self",
      .function "__new__" "cls trace_id span_id is_remote trace_flags? trace_state?", .function "__repr__" "self",
      .construct "SpanContext.__new__" "cls trace_id span_id is_remote trace_flags? trace_state?",
      .function "__setattr__" "self *",
      .property "is_remote is_valid span_id trace_flags trace_id trace_state"],
    .function "_is_valid_pair" "key value", .function "format_span_id" "span_id",
    .function "format_trace_id" "trace_id", .object "DEFAULT_TRACE_OPTIONS" ("opentelemetry.trace.span", "TraceFlags"),
    .object "DEFAULT_TRACE_STATE" ("opentelemetry.trace.span", "TraceState"),
    .object "INVALID_SPAN" ("opentelemetry.trace.span", "NonRecordingSpan"),
    .object "INVALID_SPAN_CONTEXT" ("opentelemetry.trace.span", "SpanContext"),
    .data .number "INVALID_SPAN_ID INVALID_TRACE_ID _SPAN_ID_MAX_VALUE _TRACE_ID_MAX_VALUE",
    .data .number "_TRACECONTEXT_MAXIMUM_TRACESTATE_KEYS", .object "_KEY_PATTERN" ("re", "Pattern"),
    .object "_VALUE_PATTERN" ("re", "Pattern"), .object "_delimiter_pattern" ("re", "Pattern"),
    .object "_member_pattern" ("re", "Pattern"), .data .text "_KEY_FORMAT _VALUE_FORMAT",
    .object "_logger" ("logging", "Logger"), .shared "opentelemetry.trace.status" "Status StatusCode",
    .data .module "abc python_types types typing", .modules "logging re warnings"]⟩,
  ⟨"opentelemetry.trace.status", [
    .ofType "StatusCode" .type (some ("enum", "Enum")) [
      .object "UNSET" ("opentelemetry.trace.status", "StatusCode"),
      .object "OK" ("opentelemetry.trace.status", "StatusCode"),
      .object "ERROR" ("opentelemetry.trace.status", "StatusCode")],
    .ofType "Status" .type none [
      .function "__init__" "self status_code? description?",
      .property "description is_ok is_unset status_code"],
    .object "logger" ("logging", "Logger"), .data .module "enum typing", .modules "logging"]⟩]

/-- The frameworks' modules that the application's own ones take from. -/
def frameworkModules : List Module := modelModules ++ webModules ++ logModules ++ traceModules

end ActivityLog.Builtin
