import ActivityLog.Descriptor.Catalogue

/-!
# Modules that others define

What the application's own modules take from the modules of the library.
-/

namespace ActivityLog.Builtin

/-- The library's modules that the application's own ones take from. -/
def usedModules : List Module := [
  ⟨"json", [
    .object "_default_decoder" ("json.decoder", "JSONDecoder"),
    .object "_default_encoder" ("json.encoder", "JSONEncoder"), .function "detect_encoding" "b",
    .function "dump" "obj fp ** =", .function "dumps" "obj ** =", .function "load" "fp ** =",
    .function "loads" "s ** =",
    .data .list "__all__ __path__", .data .text "__author__ __version__", .modules "codecs",
    .shared "json.decoder" "JSONDecodeError JSONDecoder", .shared "json.encoder" "JSONEncoder"]⟩,
  ⟨"json.decoder", [
    .ofType "JSONDecodeError" .type (some ("builtins", "ValueError")) [
      .function "__init__" "self msg doc pos", .function "__reduce__" "self"],
    .ofType "JSONDecoder" .type none [
      .function "__init__" "self =", .function "decode" "self s _w?", .function "raw_decode" "self s idx?",
      .held .nothing "object_hook object_pairs_hook", .held (.instance "bool") "strict", .held .table "memo"],
    .function "JSONArray" "s_and_end scan_once _w? _ws?",
    .function "JSONObject" "s_and_end strict scan_once object_hook object_pairs_hook memo? _w? _ws?",
    .function "py_scanstring" "s end strict? _b? _m?", .known "c_scanstring" "_json" "scanstring" "* **",
    .data .table "BACKSLASH", .object "FLAGS" ("re", "RegexFlag"), .data (.instance "float") "NaN NegInf PosInf",
    .object "STRINGCHUNK" ("re", "Pattern"), .object "WHITESPACE" ("re", "Pattern"), .data .text "WHITESPACE_STR",
    .data .list "__all__", .native "_json" (.other "") "scanstring", .modules "re",
    .moduleAs "scanner" "json.scanner"]⟩,
  ⟨"json.encoder", [
    .ofType "JSONEncoder" .type none [
      .data .text "item_separator key_separator", .held .nothing "indent",
      .held (.instance "bool") "allow_nan check_circular ensure_ascii skipkeys sort_keys",
      .function "__init__" "self =", .function "default" "self o",
      .function "encode" "self o", .function "iterencode" "self o _one_shot?"],
    .known "c_encode_basestring" "_json" "encode_basestring" "* **",
    .known "c_encode_basestring_ascii" "_json" "encode_basestring_ascii" "* **",
    .known "c_make_encoder" "_json" "Encoder" "* **", .function "py_encode_basestring" "s",
    .function "py_encode_basestring_ascii" "s", .object "ESCAPE" ("re", "Pattern"),
    .object "ESCAPE_ASCII" ("re", "Pattern"), .object "HAS_UTF8" ("re", "Pattern"), .data .table "ESCAPE_DCT",
    .data (.instance "float") "INFINITY", .modules "re",
    .native "_json" .one "encode_basestring encode_basestring_ascii"]⟩,
  ⟨"uuid", [
    .ofType "SafeUUID" .type (some ("enum", "Enum")) [.data (.instance "SafeUUID") "safe unknown unsafe"],
    .ofType "UUID" .type none [
      .data .tuple "__slots__", .held .text "hex urn variant", .held .tuple "fields",
      .held .number "clock_seq clock_seq_hi_variant clock_seq_low int node time time_hi_version time_low time_mid",
      .held .number "version", .held (.instance "bytes") "bytes bytes_le", .held (.instance "SafeUUID") "is_safe",
      .data (.instance "member_descriptor") "int is_safe", .function "__eq__" "self other",
      .function "__ge__" "self other", .function "__getstate__" "self", .function "__gt__" "self other",
      .function "__hash__" "self", .function "__init__" "self hex? bytes? bytes_le? fields? int? version? =",
      .function "__int__" "self", .function "__le__" "self other", .function "__lt__" "self other",
      .function "__repr__" "self", .function "__setattr__" "self name value", .function "__setstate__" "self state",
      .function "__str__" "self",
      .property "bytes bytes_le clock_seq clock_seq_hi_variant clock_seq_low fields hex node time",
      .property "time_hi_version time_low time_mid urn variant version"],
    .object "NAMESPACE_DNS" ("uuid", "UUID"), .object "NAMESPACE_OID" ("uuid", "UUID"),
    .object "NAMESPACE_URL" ("uuid", "UUID"), .object "NAMESPACE_X500" ("uuid", "UUID"), .function "_arp_getnode" "",
    .function "_find_mac_near_keyword" "command args keywords get_word_index",
    .function "_find_mac_under_heading" "command args heading", .function "_get_command_stdout" "command *",
    .function "_ifconfig_getnode" "", .function "_ip_getnode" "", .function "_ipconfig_getnode" "",
    .function "_is_universal" "mac", .function "_lanscan_getnode" "", .function "_load_system_functions" "",
    .function "_netbios_getnode" "", .function "_netstat_getnode" "", .function "_parse_mac" "word",
    .function "_random_getnode" "", .function "_unix_getnode" "", .function "_windll_getnode" "",
    .function "getnode" "", .function "uuid1" "node? clock_seq?", .function "uuid3" "namespace name",
    .function "uuid4" "", .function "uuid5" "namespace name",
    .data .text "RESERVED_FUTURE RESERVED_MICROSOFT RESERVED_NCS RFC_4122 __author__", .data .text "_platform_system",
    .data (.instance "bool") "_AIX _LINUX _MAC_OMITS_LEADING_ZEROES", .data .number "_has_uuid_generate_time_safe",
    .known "_generate_time_safe" "_uuid" "generate_time_safe" "* **", .renamed "bytes_" "builtins" "bytes",
    .renamed "int_" "builtins" "int",
    .known "_simple_enum" "enum" "_simple_enum" "etype?",
    .data .list "_GETTERS _OS_GETTERS", .data (.instance "bytes") "_MAC_DELIM",
    .data .nothing "_UuidCreate _last_timestamp _node", .modules "_uuid os platform sys",
    .shared "enum" "Enum"]⟩,
  ⟨"_uuid", [.native "_uuid" .none "generate_time_safe", .data .number "has_uuid_generate_time_safe"]⟩,
  ⟨"inspect", [
    .ofType "Signature" .type none [
      .data .tuple "__slots__", .function "__eq__" "self other", .function "__hash__" "self",
      .function "__init__" "self parameters? =", .function "__reduce__" "self", .function "__repr__" "self",
      .function "__setstate__" "self state", .function "__str__" "self", .function "_bind" "self args kwargs =",
      .function "_hash_basis" "self", .function "bind" "self * **", .function "bind_partial" "self * **",
      .classMethod "from_callable" "cls obj =", .function "replace" "self =", .property "parameters return_annotation",
      .held (.instance "mappingproxy") "parameters _parameters",
      .data (.instance "member_descriptor") "_parameters _return_annotation"]]⟩,
  ⟨"importlib", [
    .known "__import__" "_frozen_importlib" "__import__" "name globals? locals? fromlist? level?",
    .known "_pack_uint32" "_frozen_importlib_external" "_pack_uint32" "x",
    .known "_unpack_uint32" "_frozen_importlib_external" "_unpack_uint32" "data",
    .function "find_loader" "name path?", .function "import_module" "name package?", .function "invalidate_caches" "",
    .function "reload" "module", .data .table "_RELOADING", .data .list "__all__ __path__",
    .moduleAs "_bootstrap" "_frozen_importlib", .moduleAs "_bootstrap_external" "_frozen_importlib_external",
    .data .module "_imp", .modules "sys warnings"]⟩,
  ⟨"re", [
    .ofType "Match" .type none [
      .data .routine "__class_getitem__",
      .data .looseRoutine "__copy__ __deepcopy__ end expand group groupdict groups span start",
      .data .looseOperator "__getitem__ __repr__", .data (.instance "member_descriptor") "endpos pos re string",
      .data (.instance "getset_descriptor") "lastgroup lastindex regs"],
    .ofType "Pattern" .type none [
      .data .routine "__class_getitem__", .held .text "pattern", .held .number "flags groups",
      .held (.instance "mappingproxy") "groupindex",
      .data .looseRoutine "__copy__ __deepcopy__ findall finditer fullmatch match scanner search split sub subn",
      .data .looseOperator "__eq__ __ge__ __gt__ __hash__ __le__ __lt__ __ne__ __repr__",
      .data (.instance "member_descriptor") "flags groups pattern",
      .data (.instance "getset_descriptor") "groupindex"],
    .ofType "Scanner" .type none [
      .function "__init__" "self lexicon flags?", .function "scan" "self string"],
    .ofType "RegexFlag" .type (some ("enum", "IntFlag")) [
      .known "__and__" "enum" "Flag.__and__" "self other", .known "__invert__" "enum" "Flag.__invert__" "self",
      .known "__new__" "enum" "Enum.__new__" "cls value", .known "__or__" "enum" "Flag.__or__" "self other",
      .known "__rand__" "enum" "Flag.__and__" "self other", .known "__repr__" "enum" "global_flag_repr" "self",
      .known "__ror__" "enum" "Flag.__or__" "self other", .known "__rxor__" "enum" "Flag.__xor__" "self other",
      .known "__xor__" "enum" "Flag.__xor__" "self other",
      .known "_generate_next_value_" "enum" "Flag._generate_next_value_" "name start count last_values",
      .data (.instance "RegexFlag") "A ASCII DEBUG DOTALL I IGNORECASE L LOCALE M MULTILINE NOFLAG S T TEMPLATE",
      .data (.instance "RegexFlag") "U UNICODE VERBOSE X",
      .data .number "_all_bits_ _flag_mask_ _singles_mask_", .data (.instance "FlagBoundary") "_boundary_",
      .data .nothing "_inverted_", .data .table "_member_map_ _value2member_map_",
      .data .list "_member_names_ _unhashable_values_", .data .routine "_new_member_",
      .data (.instance "bool") "_use_args_", .data .looseOperator "__str__"],
    .ofType "error" .type (some ("builtins", "Exception")) [
      .function "__init__" "self msg pattern? pos?"],
    .function "_compile" "pattern flags", .function "_compile_repl" "* **",
    .function "_expand" "pattern match template", .function "_pickle" "p",
    .function "_subx" "pattern template", .function "compile" "pattern flags?", .function "escape" "pattern",
    .function "findall" "pattern string flags?", .function "finditer" "pattern string flags?",
    .function "fullmatch" "pattern string flags?", .function "match" "pattern string flags?", .function "purge" "",
    .function "search" "pattern string flags?", .function "split" "pattern string maxsplit? flags?",
    .function "sub" "pattern repl string count? flags?", .function "subn" "pattern repl string count? flags?",
    .function "template" "pattern flags?",
    .object "A" ("re", "RegexFlag"), .object "ASCII" ("re", "RegexFlag"), .object "DEBUG" ("re", "RegexFlag"),
    .object "DOTALL" ("re", "RegexFlag"), .object "I" ("re", "RegexFlag"), .object "IGNORECASE" ("re", "RegexFlag"),
    .object "L" ("re", "RegexFlag"), .object "LOCALE" ("re", "RegexFlag"), .object "M" ("re", "RegexFlag"),
    .object "MULTILINE" ("re", "RegexFlag"), .object "NOFLAG" ("re", "RegexFlag"), .object "S" ("re", "RegexFlag"),
    .object "T" ("re", "RegexFlag"), .object "TEMPLATE" ("re", "RegexFlag"), .object "U" ("re", "RegexFlag"),
    .object "UNICODE" ("re", "RegexFlag"), .object "VERBOSE" ("re", "RegexFlag"), .object "X" ("re", "RegexFlag"),
    .data .number "_MAXCACHE",
    .data .list "__all__ __path__", .data .text "__version__", .data .table "_cache _special_chars_map",
    .data .module "_casefix _compiler _constants _parser", .modules "copyreg enum functools"]⟩,
  ⟨"logging", [
    .renamed "_logRecordFactory" "logging" "LogRecord", .renamed "_loggerClass" "logging" "Logger",
    .known "currentframe" "logging" "<lambda>" "", .foreignTypes "types" "GenericAlias",
    .shared "string" "Template",
    .ofType "BufferingFormatter" .type none [
      .function "__init__" "self linefmt?", .function "format" "self records",
      .function "formatFooter" "self records", .function "formatHeader" "self records"],
    .ofType "Filterer" .type none [
      .held .list "filters",
      .function "__init__" "self", .function "addFilter" "self filter", .function "filter" "self record",
      .function "removeFilter" "self filter"],
    .ofType "Handler" .type (some ("logging", "Filterer")) [
      .held .nothing "_name formatter", .held .number "level", .held (.instance "bool") "_closed",
      .held (.instance "RLock") "lock",
      .function "__init__" "self level?", .function "__repr__" "self", .function "_at_fork_reinit" "self",
      .function "acquire" "self", .function "close" "self", .function "createLock" "self",
      .function "emit" "self record", .function "flush" "self", .function "format" "self record",
      .function "get_name" "self", .function "handle" "self record", .function "handleError" "self record",
      .function "release" "self", .function "setFormatter" "self fmt", .function "setLevel" "self level",
      .function "set_name" "self name", .property "name"],
    .ofType "StreamHandler" .type (some ("logging", "Handler")) [
      .data .text "terminator", .function "__init__" "self stream?", .function "__repr__" "self",
      .function "emit" "self record", .function "flush" "self", .function "setStream" "self stream"],
    .ofType "FileHandler" .type (some ("logging", "StreamHandler")) [
      .function "__init__" "self filename mode? encoding? delay? errors?", .function "__repr__" "self",
      .function "_open" "self", .function "close" "self", .function "emit" "self record"],
    .ofType "Filter" .type none [
      .function "__init__" "self name?", .function "filter" "self record"],
    .ofType "Formatter" .type none [
      .data .routine "converter", .data .text "default_msec_format default_time_format",
      .function "__init__" "self fmt? datefmt? style? validate? =", .function "format" "self record",
      .function "formatException" "self ei", .function "formatMessage" "self record",
      .function "formatStack" "self stack_info", .function "formatTime" "self record datefmt?",
      .function "usesTime" "self", .held .text "_fmt", .held .nothing "datefmt",
      .holds "_style" ("logging", "PercentStyle")],
    .ofType "LogRecord" .type none [
      .function "__init__" "self name level pathname lineno msg args exc_info func? sinfo? **",
      .function "__repr__" "self", .function "getMessage" "self"],
    .ofType "Logger" .type (some ("logging", "Filterer")) [
      .held .text "name", .held .number "level", .held .nothing "parent", .held (.instance "bool") "disabled propagate",
      .held .list "handlers", .held .table "_cache",
      .object "manager" ("logging", "Manager"), .object "root" ("logging", "RootLogger"),
      .function "__init__" "self name level?", .function "__reduce__" "self", .function "__repr__" "self",
      .function "_log" "self level msg args exc_info? extra? stack_info? stacklevel?",
      .function "addHandler" "self hdlr", .function "callHandlers" "self record",
      .function "critical" "self msg * **", .function "debug" "self msg * **", .function "error" "self msg * **",
      .function "exception" "self msg * ** =", .function "fatal" "self msg * **",
      .function "findCaller" "self stack_info? stacklevel?", .function "getChild" "self suffix",
      .function "getEffectiveLevel" "self", .function "handle" "self record", .function "hasHandlers" "self",
      .function "info" "self msg * **", .function "isEnabledFor" "self level", .function "log" "self level msg * **",
      .function "makeRecord" "self name level fn lno msg args exc_info func? extra? sinfo?",
      .function "removeHandler" "self hdlr", .function "setLevel" "self level", .function "warn" "self msg * **",
      .function "warning" "self msg * **"],
    .ofType "LoggerAdapter" .type none [
      .function "__init__" "self logger extra?", .function "__repr__" "self",
      .function "_log" "self level msg args **", .function "critical" "self msg * **",
      .function "debug" "self msg * **", .function "error" "self msg * **", .function "exception" "self msg * ** =",
      .function "getEffectiveLevel" "self", .function "hasHandlers" "self", .function "info" "self msg * **",
      .function "isEnabledFor" "self level", .function "log" "self level msg * **",
      .function "process" "self msg kwargs", .function "setLevel" "self level", .function "warn" "self msg * **",
      .function "warning" "self msg * **", .property "manager name"],
    .ofType "Manager" .type none [
      .held .table "loggerDict", .held .nothing "logRecordFactory loggerClass", .held .number "_disable disable",
      .held (.instance "bool") "emittedNoHandlerWarning", .holds "root" ("logging", "RootLogger"),
      .function "__init__" "self rootnode", .function "_clear_cache" "self",
      .function "_fixupChildren" "self ph alogger", .function "_fixupParents" "self alogger",
      .function "getLogger" "self name", .function "setLogRecordFactory" "self factory",
      .function "setLoggerClass" "self klass", .property "disable"],
    .ofType "NullHandler" .type (some ("logging", "Handler")) [
      .function "_at_fork_reinit" "self", .function "createLock" "self", .function "emit" "self record",
      .function "handle" "self record"],
    .ofType "PercentStyle" .type none [
      .data .text "asctime_format asctime_search default_format", .data (.instance "Pattern") "validation_pattern",
      .function "__init__" "self fmt =", .function "_format" "self record", .function "format" "self record",
      .function "usesTime" "self", .function "validate" "self"],
    .ofType "PlaceHolder" .type none [
      .function "__init__" "self alogger", .function "append" "self alogger"],
    .ofType "RootLogger" .type (some ("logging", "Logger")) [
      .function "__init__" "self level", .function "__reduce__" "self"],
    .ofType "StrFormatStyle" .type (some ("logging", "PercentStyle")) [
      .data .text "asctime_format asctime_search default_format", .data (.instance "Pattern") "field_spec fmt_spec",
      .function "_format" "self record", .function "validate" "self"],
    .ofType "StringTemplateStyle" .type (some ("logging", "PercentStyle")) [
      .construct "PercentStyle.__init__" "self fmt =",
      .data .text "asctime_format asctime_search default_format", .function "__init__" "self * **",
      .function "_format" "self record", .function "usesTime" "self", .function "validate" "self"],
    .ofType "_StderrHandler" .type (some ("logging", "StreamHandler")) [
      .function "__init__" "self level?", .property "stream"],
    .function "_acquireLock" "", .function "_addHandlerRef" "handler",
    .function "_after_at_fork_child_reinit_locks" "", .function "_checkLevel" "level",
    .function "_is_internal_frame" "frame", .function "_register_at_fork_reinit_lock" "instance",
    .function "_releaseLock" "", .function "_removeHandlerRef" "wr",
    .function "_showwarning" "message category filename lineno file? line?",
    .function "addLevelName" "level levelName", .function "basicConfig" "**", .function "captureWarnings" "capture",
    .function "critical" "msg * **", .renamed "currentframe" "logging" "<lambda>", .function "debug" "msg * **",
    .function "disable" "level?", .function "error" "msg * **", .function "exception" "msg * ** =",
    .function "fatal" "msg * **", .function "getLevelName" "level", .function "getLevelNamesMapping" "",
    .function "getLogRecordFactory" "", .function "getLogger" "name?", .function "getLoggerClass" "",
    .function "info" "msg * **", .function "log" "level msg * **", .function "makeLogRecord" "dict",
    .function "setLogRecordFactory" "factory", .function "setLoggerClass" "klass",
    .function "shutdown" "handlerList?", .function "warn" "msg * **", .function "warning" "msg * **",
    .data .text "BASIC_FORMAT __author__ __date__ __status__ __version__ _srcfile",
    .data .number "CRITICAL DEBUG ERROR FATAL INFO NOTSET WARN WARNING",
    .data (.instance "bool") "logMultiprocessing logProcesses logThreads raiseExceptions",
    .data .table "_STYLES _levelToName _nameToLevel",
    .data .list "__all__ __path__ _handlerList", .object "_at_fork_reinit_lock_weakset" ("_weakrefset", "WeakSet"),
    .object "_defaultFormatter" ("logging", "Formatter"), .object "_str_formatter" ("string", "Formatter"),
    .object "_defaultLastResort" ("logging", "_StderrHandler"), .object "lastResort" ("logging", "_StderrHandler"),
    .object "_handlers" ("weakref", "WeakValueDictionary"), .data (.instance "RLock") "_lock",
    .data (.instance "float") "_startTime", .data .nothing "_warnings_showwarning",
    .modules "atexit collections io os re sys threading time traceback warnings weakref",
    .object "root" ("logging", "RootLogger")]⟩,
  ⟨"typing", [
    .ofType "_Final" .type none [
      .data .tuple "__slots__", .classMethod "__init_subclass__" "cls * **"],
    .ofType "_SpecialForm" .type (some ("typing", "_Final")) [
      .held .text "__name__ __qualname__",
      .data .nothing "__iter__", .data .tuple "__slots__", .held .text "_name",
      .data (.instance "member_descriptor") "_getitem _name",
      .function "__call__" "self * **", .function "__getattr__" "self item",
      .function "__getitem__" "self parameters", .function "__init__" "self getitem",
      .function "__instancecheck__" "self obj", .function "__mro_entries__" "self bases",
      .function "__or__" "self other", .function "__reduce__" "self", .function "__repr__" "self",
      .function "__ror__" "self other", .function "__subclasscheck__" "self cls"],
    .ofType "_LiteralSpecialForm" .type (some ("typing", "_SpecialForm")) [
      .function "__getitem__" "self parameters"],
    .ofType "_BaseGenericAlias" .type (some ("typing", "_Final")) [
      .held .text "__name__ __qualname__",
      .data .text "_name", .data (.instance "bool") "_inst", .function "__call__" "self * **",
      .function "__dir__" "self",
      .function "__getattr__" "self attr", .function "__init__" "self origin =",
      .function "__instancecheck__" "self obj", .function "__mro_entries__" "self bases",
      .function "__setattr__" "self attr val", .function "__subclasscheck__" "self cls"],
    .ofType "_SpecialGenericAlias" .type (some ("typing", "_BaseGenericAlias")) [
      .data .nothing "__iter__ __slots__", .data .number "_nparams", .function "__getitem__" "self params",
      .function "__init__" "self origin nparams =", .function "__or__" "self right", .function "__reduce__" "self",
      .function "__repr__" "self", .function "__ror__" "self left", .function "__subclasscheck__" "self cls",
      .function "copy_with" "self params"],
    .ofType "_CallableType" .type (some ("typing", "_SpecialGenericAlias")) [
      .function "__getitem__" "self params", .function "__getitem_inner__" "self params",
      .function "copy_with" "self params"],
    .ofType "_TupleType" .type (some ("typing", "_SpecialGenericAlias")) [
      .function "__getitem__" "self params"],
    .ofType "_GenericAlias" .type (some ("typing", "_BaseGenericAlias")) [
      .data .tuple "__args__ __parameters__", .data .number "_paramspec_tvars", .function "__eq__" "self other",
      .function "__getitem__" "self args", .function "__hash__" "self", .function "__init__" "self origin args =",
      .function "__iter__" "self", .function "__mro_entries__" "self bases", .function "__or__" "self right",
      .function "__reduce__" "self", .function "__repr__" "self", .function "__ror__" "self left",
      .function "_determine_new_args" "self args", .function "_make_substitution" "self args new_arg_by_param",
      .function "copy_with" "self args"],
    .ofType "_CallableGenericAlias" .type (some ("typing", "_GenericAlias")) [
      .data .nothing "__iter__ __slots__", .function "__reduce__" "self", .function "__repr__" "self"],
    .ofType "_UnionGenericAlias" .type (some ("typing", "_GenericAlias")) [
      .data .nothing "__iter__ __slots__", .function "__eq__" "self other", .function "__hash__" "self",
      .function "__instancecheck__" "self obj", .function "__reduce__" "self", .function "__repr__" "self",
      .function "__subclasscheck__" "self cls", .function "copy_with" "self params"],
    .ofType "_AnnotatedAlias" .type (some ("typing", "_GenericAlias")) [
      .data .nothing "__iter__ __slots__", .function "__eq__" "self other", .function "__getattr__" "self attr",
      .function "__hash__" "self", .function "__init__" "self origin metadata", .function "__reduce__" "self",
      .function "__repr__" "self", .function "copy_with" "self params"],
    .ofType "_AnyMeta" .type none [
      .data .routine "__prepare__", .function "__instancecheck__" "self obj", .function "__repr__" "self"],
    .ofType "Annotated" .type none [
      .construct "Annotated" "cls * **", .data .tuple "__slots__", .classMethod "__class_getitem__" "cls params",
      .classMethod "__init_subclass__" "cls * **", .function "__new__" "cls * **",
      .function "_class_getitem_inner" "cls *"],
    .ofType "Any" .type none [
      .construct "Any" "cls * **", .function "__new__" "cls * **"],
    .alias "Callable" ("typing", "_CallableType") (some ("collections.abc", "Callable"))
      "Callable() takes no arguments",
    .alias "Dict" ("typing", "_SpecialGenericAlias") (some ("builtins", "dict"))
      "Type Dict cannot be instantiated; use dict() instead",
    .alias "List" ("typing", "_SpecialGenericAlias") (some ("builtins", "list"))
      "Type List cannot be instantiated; use list() instead",
    .alias "Literal" ("typing", "_LiteralSpecialForm") none
      "Cannot instantiate typing.Literal",
    .alias "Mapping" ("typing", "_SpecialGenericAlias") (some ("collections.abc", "Mapping"))
      "Mapping() takes no arguments",
    .alias "Optional" ("typing", "_SpecialForm") none
      "Cannot instantiate typing.Optional",
    .alias "Sequence" ("typing", "_SpecialGenericAlias") (some ("collections.abc", "Sequence"))
      "Sequence() takes no arguments",
    .alias "Tuple" ("typing", "_TupleType") (some ("builtins", "tuple"))
      "Type Tuple cannot be instantiated; use tuple() instead",
    .alias "Union" ("typing", "_SpecialForm") none
      "Cannot instantiate typing.Union"]⟩,
  ⟨"dataclasses", [
    .function "dataclass" "cls? =", .function "field" "="]⟩,
  ⟨"datetime", [
    .ofType "date" .type none [
      .data .looseOperator "__add__ __eq__ __ge__ __getattribute__ __gt__ __hash__ __le__ __lt__ __ne__ __radd__",
      .data .looseOperator "__repr__ __rsub__ __str__ __sub__",
      .data .looseRoutine "__format__ __reduce__ ctime isocalendar isoformat isoweekday replace strftime",
      .data .looseRoutine "timetuple toordinal weekday",
      .data .routine "__new__ fromisocalendar fromisoformat fromordinal fromtimestamp today",
      .held .number "day month year", .data (.instance "getset_descriptor") "day month year",
      .object "max" ("datetime", "date"), .object "min" ("datetime", "date"),
      .object "resolution" ("datetime", "timedelta")],
    .ofType "datetime" .type (some ("datetime", "date")) [
      .data .looseOperator "__add__ __eq__ __ge__ __getattribute__ __gt__ __hash__ __le__ __lt__ __ne__ __radd__",
      .data .looseOperator "__repr__ __rsub__ __str__ __sub__",
      .data .routine "__new__ combine fromisoformat fromtimestamp now strptime utcfromtimestamp utcnow",
      .data .looseRoutine "__reduce__ __reduce_ex__ astimezone ctime date dst isoformat replace time timestamp",
      .data .looseRoutine "timetuple timetz tzname utcoffset utctimetuple",
      .held .number "fold hour microsecond minute second", .held .nothing "tzinfo",
      .data (.instance "getset_descriptor") "fold hour microsecond minute second tzinfo",
      .object "max" ("datetime", "datetime"), .object "min" ("datetime", "datetime"),
      .object "resolution" ("datetime", "timedelta")],
    .ofType "timedelta" .type none [
      .data .looseOperator "__abs__ __add__ __bool__ __divmod__ __eq__ __floordiv__ __ge__ __getattribute__ __gt__",
      .data .looseOperator "__hash__ __le__ __lt__ __mod__ __mul__ __ne__ __neg__ __pos__ __radd__ __rdivmod__",
      .data .looseOperator "__repr__ __rfloordiv__ __rmod__ __rmul__ __rsub__ __rtruediv__ __str__ __sub__",
      .data .looseOperator "__truediv__", .data .looseRoutine "__reduce__ total_seconds", .data .routine "__new__",
      .held .number "days microseconds seconds",
      .data (.instance "member_descriptor") "days microseconds seconds", .data (.instance "timedelta") "max min",
      .data (.instance "timedelta") "resolution"],
    .ofType "tzinfo" .type none [
      .data .looseOperator "__getattribute__", .data .routine "__new__",
      .data .looseRoutine "__reduce__ dst fromutc tzname utcoffset"],
    .ofType "timezone" .type (some ("datetime", "tzinfo")) [
      .data .looseOperator "__eq__ __ge__ __gt__ __hash__ __le__ __lt__ __ne__ __repr__ __str__",
      .data .looseRoutine "__getinitargs__ dst fromutc tzname utcoffset", .data .routine "__new__",
      .object "max" ("datetime", "timezone"), .object "min" ("datetime", "timezone"),
      .object "utc" ("datetime", "timezone")]]⟩,
  ⟨"pathlib", [
    .ofType "PurePath" .type none [
      .data .tuple "__slots__",
      .data (.instance "member_descriptor") "_cached_cparts _drv _hash _parts _pparts _root _str",
      .function "__bytes__" "self", .function "__eq__" "self other", .function "__fspath__" "self",
      .function "__ge__" "self other", .function "__gt__" "self other", .function "__hash__" "self",
      .function "__le__" "self other", .function "__lt__" "self other", .function "__new__" "cls *",
      .function "__reduce__" "self", .function "__repr__" "self", .function "__rtruediv__" "self key",
      .function "__str__" "self", .function "__truediv__" "self key",
      .classMethod "_format_parsed_parts" "cls drv root parts",
      .classMethod "_from_parsed_parts" "cls drv root parts", .classMethod "_from_parts" "cls args",
      .function "_make_child" "self args", .classMethod "_parse_args" "cls args", .function "as_posix" "self",
      .function "as_uri" "self", .function "is_absolute" "self", .function "is_relative_to" "self *",
      .function "is_reserved" "self", .function "joinpath" "self *", .function "match" "self path_pattern",
      .function "relative_to" "self *", .function "with_name" "self name", .function "with_stem" "self stem",
      .function "with_suffix" "self suffix",
      .property "_cparts anchor drive name parent parents parts root stem suffix suffixes"],
    .ofType "Path" .type (some ("pathlib", "PurePath")) [
      .data .tuple "__slots__", .function "__enter__" "self", .function "__exit__" "self t v tb",
      .function "__new__" "cls * **", .function "_make_child_relpath" "self part", .function "_scandir" "self",
      .function "absolute" "self", .function "chmod" "self mode =", .classMethod "cwd" "cls", .function "exists" "self",
      .function "expanduser" "self", .function "glob" "self pattern", .function "group" "self",
      .function "hardlink_to" "self target", .classMethod "home" "cls", .function "is_block_device" "self",
      .function "is_char_device" "self", .function "is_dir" "self", .function "is_fifo" "self",
      .function "is_file" "self", .function "is_mount" "self", .function "is_socket" "self",
      .function "is_symlink" "self", .function "iterdir" "self", .function "lchmod" "self mode",
      .function "link_to" "self target", .function "lstat" "self", .function "mkdir" "self mode? parents? exist_ok?",
      .function "open" "self mode? buffering? encoding? errors? newline?", .function "owner" "self",
      .function "read_bytes" "self", .function "read_text" "self encoding? errors?", .function "readlink" "self",
      .function "rename" "self target", .function "replace" "self target", .function "resolve" "self strict?",
      .function "rglob" "self pattern", .function "rmdir" "self", .function "samefile" "self other_path",
      .function "stat" "self =", .function "symlink_to" "self target target_is_directory?",
      .function "touch" "self mode? exist_ok?", .function "unlink" "self missing_ok?",
      .function "write_bytes" "self data", .function "write_text" "self data encoding? errors? newline?"]]⟩,
  ⟨"enum", [
    .ofType "Enum" .type none [
      .construct "EnumType.__call__" "cls value names?", .data .table "_member_map_ _value2member_map_",
      .data .list "_member_names_ _unhashable_values_", .data (.instance "bool") "_use_args_",
      .data .nothing "_value_repr_", .held .text "name _name_", .held .number "value _value_",
      .known "_new_member_" "enum" "Enum.__new__" "cls value",
      .sameAs "_member_type_" ("builtins", "object") "__class__", .function "__copy__" "self",
      .function "__deepcopy__" "self memo", .function "__dir__" "self", .function "__format__" "self format_spec",
      .function "__hash__" "self", .function "__init__" "self * **", .function "__new__" "cls value",
      .function "__reduce_ex__" "self proto", .function "__repr__" "self", .function "__str__" "self",
      .function "_generate_next_value_" "name start count last_values", .classMethod "_missing_" "cls value"],
    .ofType "Flag" .type (some ("enum", "Enum")) [
      .function "__and__" "self other", .function "__bool__" "self", .function "__contains__" "self other",
      .function "__invert__" "self", .function "__iter__" "self", .function "__len__" "self",
      .known "__new__" "enum" "Enum.__new__" "cls value", .function "__or__" "self other",
      .known "__rand__" "enum" "Flag.__and__" "self other", .function "__repr__" "self",
      .known "__ror__" "enum" "Flag.__or__" "self other", .known "__rxor__" "enum" "Flag.__xor__" "self other",
      .function "__str__" "self", .function "__xor__" "self other",
      .function "_generate_next_value_" "name start count last_values", .function "_get_value" "self flag",
      .classMethod "_iter_member_" "cls value", .classMethod "_iter_member_by_def_" "cls value",
      .classMethod "_iter_member_by_value_" "cls value", .classMethod "_missing_" "cls value",
      .data .number "_all_bits_ _flag_mask_ _singles_mask_", .data (.instance "FlagBoundary") "_boundary_",
      .data .nothing "_inverted_ _value_repr_", .data .table "_member_map_ _value2member_map_",
      .data .list "_member_names_ _unhashable_values_", .data (.instance "bool") "_use_args_"],
    .ofType "ReprEnum" .type (some ("enum", "Enum")) [
      .known "__new__" "enum" "Enum.__new__" "cls value",
      .known "_generate_next_value_" "enum" "Enum._generate_next_value_" "name start count last_values",
      .data .table "_member_map_ _value2member_map_", .data .list "_member_names_ _unhashable_values_",
      .data .routine "_new_member_", .data (.instance "bool") "_use_args_", .data .nothing "_value_repr_"],
    .ofType "IntFlag" .type (some ("enum", "Flag")) [
      .known "__and__" "enum" "Flag.__and__" "self other", .known "__invert__" "enum" "Flag.__invert__" "self",
      .known "__new__" "enum" "Enum.__new__" "cls value", .known "__or__" "enum" "Flag.__or__" "self other",
      .known "__rand__" "enum" "Flag.__and__" "self other", .known "__repr__" "enum" "Flag.__repr__" "self",
      .known "__ror__" "enum" "Flag.__or__" "self other", .known "__rxor__" "enum" "Flag.__xor__" "self other",
      .known "__xor__" "enum" "Flag.__xor__" "self other",
      .known "_generate_next_value_" "enum" "Flag._generate_next_value_" "name start count last_values",
      .data .number "_all_bits_ _flag_mask_ _singles_mask_",
      .data (.instance "FlagBoundary") "_boundary_", .data .nothing "_inverted_",
      .data .table "_member_map_ _value2member_map_", .data .list "_member_names_ _unhashable_values_",
      .data .routine "_new_member_", .data (.instance "bool") "_use_args_", .data .looseOperator "__str__",
      .also ("builtins", "int")],
    .ofType "EnumType" .type none [
      .function "__bool__" "cls", .function "__call__" "cls value names? =", .function "__contains__" "cls member",
      .function "__delattr__" "cls attr", .function "__dir__" "cls", .function "__getattr__" "cls name",
      .function "__getitem__" "cls name", .function "__iter__" "cls", .function "__len__" "cls",
      .function "__new__" "metacls cls bases classdict ** =", .classMethod "__prepare__" "metacls cls bases **",
      .function "__repr__" "cls", .function "__reversed__" "cls", .function "__setattr__" "cls name value",
      .classMethod "_check_for_existing_members_" "mcls class_name bases",
      .function "_convert_" "cls name module filter source? =", .function "_create_" "cls class_name names =",
      .classMethod "_find_data_repr_" "mcls class_name bases",
      .classMethod "_find_data_type_" "mcls class_name bases",
      .classMethod "_find_new_" "mcls classdict member_type first_enum",
      .classMethod "_get_mixins_" "mcls class_name bases", .property "__members__"],
    .ofType "EnumCheck" .type (some ("enum", "Enum")) [
      .data (.instance "EnumCheck") "CONTINUOUS NAMED_FLAGS UNIQUE"],
    .ofType "FlagBoundary" .type (some ("enum", "Enum")) [
      .data (.instance "FlagBoundary") "CONFORM EJECT KEEP STRICT"],
    .ofType "IntEnum" .type (some ("enum", "ReprEnum")) [.also ("builtins", "int")],
    .ofType "StrEnum" .type (some ("enum", "ReprEnum")) [.also ("builtins", "str")],
    .ofType "auto" .type none [.function "__init__" "self value?"],
    .ofType "member" .type none [.function "__init__" "self value"],
    .ofType "nonmember" .type none [.function "__init__" "self value"],
    .ofType "verify" .type none [.function "__init__" "self *", .function "__call__" "self enumeration"],
    .function "_dedent" "text", .function "_high_bit" "value", .function "_is_descriptor" "obj",
    .function "_is_dunder" "name", .function "_is_internal_class" "cls_name obj",
    .function "_is_private" "cls_name name", .function "_is_single_bit" "num", .function "_is_sunder" "name",
    .function "_iter_bits_lsb" "num", .function "_make_class_unpicklable" "obj", .function "_power_of_two" "value",
    .known "_reduce_ex_by_global_name" "enum" "pickle_by_global_name" "self proto",
    .function "_simple_enum" "etype? =", .function "_test_simple_enum" "checked_enum simple_enum",
    .function "bin" "num max_bits?", .function "global_enum" "cls update_str?", .function "global_enum_repr" "self",
    .function "global_flag_repr" "self", .function "global_str" "self", .function "pickle_by_enum_name" "self proto",
    .function "pickle_by_global_name" "self proto", .function "show_flag_values" "value",
    .function "unique" "enumeration", .native "_functools" (.other "reduce() arg 2 must support iteration") "reduce",
    .data (.instance "EnumCheck") "CONTINUOUS NAMED_FLAGS UNIQUE",
    .data (.instance "FlagBoundary") "CONFORM EJECT KEEP STRICT", .data .list "__all__", .data .module "bltns",
    .modules "sys", .foreignTypes "enum" "property", .foreignTypes "types" "DynamicClassAttribute",
    .renamed "EnumMeta" "enum" "EnumType", .renamed "MappingProxyType" "builtins" "mappingproxy"]⟩,
  ⟨"abc", [
    .ofType "ABC" .type none [
      .data .tuple "__slots__"],
    .ofType "ABCMeta" .type none [
      .data .routine "__prepare__", .data (.instance "_abc_data") "_abc_impl",
      .data (.instance "frozenset") "__abstractmethods__", .function "__instancecheck__" "cls instance",
      .function "__new__" "mcls name bases namespace **", .function "__subclasscheck__" "cls subclass",
      .function "_abc_caches_clear" "cls", .function "_abc_registry_clear" "cls",
      .function "_dump_registry" "cls file?", .function "register" "cls subclass"],
    .function "abstractmethod" "funcobj"]⟩,
  ⟨"collections.abc", [
    .ofType "Sized" .type none [
      .data .tuple "__slots__", .function "__len__" "self", .classMethod "__subclasshook__" "cls C"],
    .ofType "Callable" .type none [
      .bracketed,
      .data .tuple "__slots__", .function "__call__" "self * **", .classMethod "__subclasshook__" "cls C"],
    .ofType "Iterable" .type (some ("collections.abc", "Sized")) [
      .bracketed,
      .data .tuple "__slots__", .function "__iter__" "self", .classMethod "__subclasshook__" "cls C"],
    .ofType "Collection" .type (some ("collections.abc", "Iterable")) [
      .data .tuple "__slots__", .classMethod "__subclasshook__" "cls C"],
    .ofType "Mapping" .type (some ("collections.abc", "Collection")) [
      .data .nothing "__hash__ __reversed__", .data .tuple "__slots__", .function "__contains__" "self key",
      .function "__eq__" "self other", .function "__getitem__" "self key", .function "get" "self key default?",
      .function "items" "self", .function "keys" "self", .function "values" "self"],
    .ofType "MutableMapping" .type (some ("collections.abc", "Mapping")) [
      .data (.instance "object") "_MutableMapping__marker", .data .tuple "__slots__",
      .function "__delitem__" "self key", .function "__setitem__" "self key value", .function "clear" "self",
      .function "pop" "self key default?", .function "popitem" "self", .function "setdefault" "self key default?",
      .function "update" "self other? **"],
    .ofType "Reversible" .type (some ("collections.abc", "Iterable")) [
      .data .tuple "__slots__", .function "__reversed__" "self", .classMethod "__subclasshook__" "cls C"],
    .ofType "Sequence" .type (some ("collections.abc", "Reversible")) [
      .data .tuple "__slots__", .function "__contains__" "self value", .function "__getitem__" "self index",
      .function "__iter__" "self", .function "__reversed__" "self", .function "count" "self value",
      .function "index" "self value start? stop?"]]⟩,
  ⟨"_contextvars", [
    .ofType "ContextVar" .type none [
      .data .nothing "__doc__",
      .data .routine "__class_getitem__ __new__", .data .looseOperator "__getattribute__ __hash__ __repr__",
      .data .looseRoutine "get reset set", .held .text "name", .data (.instance "member_descriptor") "name"]]⟩,
  ⟨"builtins", [
    .ofType "BaseException" .type none [
      .data (.instance "getset_descriptor") "__cause__ __context__ __traceback__ args",
      .data .looseOperator "__delattr__ __getattribute__ __init__ __repr__ __setattr__ __str__",
      .data .routine "__new__", .data .looseRoutine "__reduce__ __setstate__ add_note with_traceback",
      .data (.instance "member_descriptor") "__suppress_context__"],
    .ofType "Exception" .type (some ("builtins", "BaseException")) [
      .construct "Exception" "self *", .data .looseOperator "__init__", .data .routine "__new__"],
    .ofType "ValueError" .type (some ("builtins", "Exception")) [
      .data .looseOperator "__init__", .data .routine "__new__"],
    .ofType "bytes" .type none [
      .data .looseOperator "__add__ __contains__ __eq__ __ge__ __getattribute__ __getitem__ __gt__ __hash__",
      .data .looseOperator "__iter__ __le__ __len__ __lt__ __mod__ __mul__ __ne__ __repr__ __rmod__ __rmul__",
      .data .looseOperator "__str__",
      .data .looseRoutine "__bytes__ __getnewargs__ capitalize center count decode endswith expandtabs find",
      .data .looseRoutine "hex index isalnum isalpha isascii isdigit islower isspace istitle isupper join",
      .data .looseRoutine "ljust lower lstrip partition removeprefix removesuffix replace rfind rindex rjust",
      .data .looseRoutine "rpartition rsplit rstrip split splitlines startswith strip swapcase title",
      .data .looseRoutine "translate upper zfill", .data .routine "__new__ fromhex maketrans"],
    .ofType "int" .type none [
      .data .looseOperator "__abs__ __add__ __and__ __bool__ __divmod__ __eq__ __float__ __floordiv__ __ge__",
      .data .looseOperator "__getattribute__ __gt__ __hash__ __index__ __int__ __invert__ __le__ __lshift__",
      .data .looseOperator "__lt__ __mod__ __mul__ __ne__ __neg__ __or__ __pos__ __pow__ __radd__ __rand__",
      .data .looseOperator "__rdivmod__ __repr__ __rfloordiv__ __rlshift__ __rmod__ __rmul__ __ror__ __rpow__",
      .data .looseOperator "__rrshift__ __rshift__ __rsub__ __rtruediv__ __rxor__ __sub__ __truediv__ __xor__",
      .data .looseRoutine "__ceil__ __floor__ __format__ __getnewargs__ __round__ __sizeof__ __trunc__",
      .data .looseRoutine "as_integer_ratio bit_count bit_length conjugate to_bytes",
      .data .routine "__new__ from_bytes", .data (.instance "getset_descriptor") "denominator imag numerator real"],
    .ofType "mappingproxy" .type none [
      .data .nothing "__doc__",
      .data .routine "__class_getitem__ __new__",
      .data .looseOperator "__contains__ __eq__ __ge__ __getattribute__ __getitem__ __gt__ __ior__ __iter__",
      .data .looseOperator "__le__ __len__ __lt__ __ne__ __or__ __repr__ __ror__ __str__", .data .nothing "__hash__",
      .data .looseRoutine "__reversed__ copy get items keys values"],
    .ofType "dict" .type none [
      .data .routine "__class_getitem__ __new__ fromkeys",
      .data .looseRoutine "__contains__ __getitem__ __reversed__ __sizeof__ clear copy get items keys pop",
      .data .looseRoutine "popitem setdefault update values",
      .data .looseOperator "__delitem__ __eq__ __ge__ __getattribute__ __gt__ __init__ __ior__ __iter__ __le__",
      .data .looseOperator "__len__ __lt__ __ne__ __or__ __repr__ __ror__ __setitem__", .data .nothing "__hash__"],
    .ofType "list" .type none [
      .data .looseOperator "__add__ __contains__ __delitem__ __eq__ __ge__ __getattribute__ __gt__ __iadd__",
      .data .looseOperator "__imul__ __init__ __iter__ __le__ __len__ __lt__ __mul__ __ne__ __repr__ __rmul__",
      .data .looseOperator "__setitem__", .data .routine "__class_getitem__ __new__",
      .data .looseRoutine "__getitem__ __reversed__ __sizeof__ append clear copy count extend index insert pop",
      .data .looseRoutine "remove reverse sort", .data .nothing "__hash__"],
    .ofType "tuple" .type none [
      .data .looseOperator "__add__ __contains__ __eq__ __ge__ __getattribute__ __getitem__ __gt__ __hash__",
      .data .looseOperator "__iter__ __le__ __len__ __lt__ __mul__ __ne__ __repr__ __rmul__",
      .data .routine "__class_getitem__ __new__", .data .looseRoutine "__getnewargs__ count index"],
    .ofType "str" .type none [
      .data .looseOperator "__add__ __contains__ __eq__ __ge__ __getattribute__ __getitem__ __gt__ __hash__",
      .data .looseOperator "__iter__ __le__ __len__ __lt__ __mod__ __mul__ __ne__ __repr__ __rmod__ __rmul__",
      .data .looseOperator "__str__",
      .data .looseRoutine "__format__ __getnewargs__ __sizeof__ capitalize casefold center count encode",
      .data .looseRoutine "endswith expandtabs find format format_map index isalnum isalpha isascii isdecimal",
      .data .looseRoutine "isdigit isidentifier islower isnumeric isprintable isspace istitle isupper join",
      .data .looseRoutine "ljust lower lstrip partition removeprefix removesuffix replace rfind rindex rjust",
      .data .looseRoutine "rpartition rsplit rstrip split splitlines startswith strip swapcase title",
      .data .looseRoutine "translate upper zfill", .data .routine "__new__ maketrans"],
    .ofType "float" .type none [
      .data .looseOperator "__abs__ __add__ __bool__ __divmod__ __eq__ __float__ __floordiv__ __ge__",
      .data .looseOperator "__getattribute__ __gt__ __hash__ __int__ __le__ __lt__ __mod__ __mul__ __ne__",
      .data .looseOperator "__neg__ __pos__ __pow__ __radd__ __rdivmod__ __repr__ __rfloordiv__ __rmod__",
      .data .looseOperator "__rmul__ __rpow__ __rsub__ __rtruediv__ __sub__ __truediv__",
      .data .looseRoutine "__ceil__ __floor__ __format__ __getnewargs__ __round__ __trunc__ as_integer_ratio",
      .data .looseRoutine "conjugate hex is_integer", .data .routine "__getformat__ __new__ fromhex",
      .data (.instance "getset_descriptor") "imag real"],
    .ofType "bool" .type (some ("builtins", "int")) [
      .data .looseOperator "__and__ __or__ __rand__ __repr__ __ror__ __rxor__ __xor__", .data .routine "__new__"],
    .ofType "NoneType" .type none [
      .data .looseOperator "__bool__ __repr__", .data .routine "__new__"],
    .ofType "set" .type none [
      .data .looseOperator "__and__ __eq__ __ge__ __getattribute__ __gt__ __iand__ __init__ __ior__ __isub__",
      .data .looseOperator "__iter__ __ixor__ __le__ __len__ __lt__ __ne__ __or__ __rand__ __repr__ __ror__",
      .data .looseOperator "__rsub__ __rxor__ __sub__ __xor__", .data .routine "__class_getitem__ __new__",
      .data .looseRoutine "__contains__ __reduce__ __sizeof__ add clear copy difference difference_update",
      .data .looseRoutine "discard intersection intersection_update isdisjoint issubset issuperset pop remove",
      .data .looseRoutine "symmetric_difference symmetric_difference_update union update", .data .nothing "__hash__"],
    .ofType "frozenset" .type none [
      .data .looseOperator "__and__ __eq__ __ge__ __getattribute__ __gt__ __hash__ __iter__ __le__ __len__",
      .data .looseOperator "__lt__ __ne__ __or__ __rand__ __repr__ __ror__ __rsub__ __rxor__ __sub__ __xor__",
      .data .routine "__class_getitem__ __new__",
      .data .looseRoutine "__contains__ __reduce__ __sizeof__ copy difference intersection isdisjoint",
      .data .looseRoutine "issubset issuperset symmetric_difference union"],
    .ofType "function" .type none [
      .data (.instance "member_descriptor") "__builtins__ __closure__ __globals__",
      .data .looseOperator "__call__ __get__ __repr__",
      .data (.instance "getset_descriptor") "__code__ __defaults__ __kwdefaults__ __name__ __qualname__",
      .data .routine "__new__"],
    .ofType "method" .type none [
      .data .looseOperator "__call__ __delattr__ __eq__ __ge__ __getattribute__ __gt__ __hash__ __le__ __lt__",
      .data .looseOperator "__ne__ __repr__ __setattr__", .data (.instance "member_descriptor") "__func__ __self__",
      .data .routine "__new__", .data .looseRoutine "__reduce__"],
    .ofType "builtin_function_or_method" .type none [
      .data .looseOperator "__call__ __eq__ __ge__ __getattribute__ __gt__ __hash__ __le__ __lt__ __ne__",
      .data .looseOperator "__repr__",
      .data (.instance "getset_descriptor") "__name__ __qualname__ __self__ __text_signature__",
      .data .looseRoutine "__reduce__"],
    .ofType "module" .type none [
      .data .looseOperator "__delattr__ __getattribute__ __init__ __repr__ __setattr__",
      .data .looseRoutine "__dir__", .data .routine "__new__"],
    .ofType "property" .type none [
      .data .looseOperator "__delete__ __get__ __getattribute__ __init__ __set__",
      .data (.instance "getset_descriptor") "__isabstractmethod__", .data .routine "__new__",
      .data .looseRoutine "__set_name__ deleter getter setter", .data (.instance "member_descriptor") "fdel fget fset"],
    .ofType "code" .type none [
      .data .looseOperator "__eq__ __ge__ __getattribute__ __gt__ __hash__ __le__ __lt__ __ne__ __repr__",
      .data .routine "__new__", .data .looseRoutine "__sizeof__ _varname_from_oparg co_lines co_positions replace",
      .data (.instance "getset_descriptor") ("_co_code_adaptive co_cellvars co_code co_freevars co_lnotab " ++
        "co_varnames"),
      .data (.instance "member_descriptor") ("co_argcount co_consts co_exceptiontable co_filename co_firstlineno " ++
        "co_flags"),
      .data (.instance "member_descriptor") ("co_kwonlyargcount co_linetable co_name co_names co_nlocals " ++
        "co_posonlyargcount"),
      .data (.instance "member_descriptor") "co_qualname co_stacksize"],
    .ofType "method-wrapper" .type none [
      .data .looseOperator "__call__ __eq__ __ge__ __getattribute__ __gt__ __hash__ __le__ __lt__ __ne__",
      .data .looseOperator "__repr__",
      .data (.instance "getset_descriptor") "__name__ __objclass__ __qualname__ __text_signature__",
      .data .looseRoutine "__reduce__", .data (.instance "member_descriptor") "__self__"],
    .ofType "wrapper_descriptor" .type none [
      .data .looseOperator "__call__ __get__ __getattribute__ __repr__",
      .data (.instance "member_descriptor") "__name__ __objclass__",
      .data (.instance "getset_descriptor") "__qualname__ __text_signature__", .data .looseRoutine "__reduce__"],
    .ofType "method_descriptor" .type none [
      .data .looseOperator "__call__ __get__ __getattribute__ __repr__",
      .data (.instance "member_descriptor") "__name__ __objclass__",
      .data (.instance "getset_descriptor") "__qualname__ __text_signature__", .data .looseRoutine "__reduce__"],
    .ofType "getset_descriptor" .type none [
      .data .looseOperator "__delete__ __get__ __getattribute__ __repr__ __set__",
      .data (.instance "member_descriptor") "__name__ __objclass__",
      .data (.instance "getset_descriptor") "__qualname__"],
    .ofType "member_descriptor" .type none [
      .data .looseOperator "__delete__ __get__ __getattribute__ __repr__ __set__",
      .data (.instance "member_descriptor") "__name__ __objclass__",
      .data (.instance "getset_descriptor") "__qualname__", .data .looseRoutine "__reduce__"]]⟩,
  ⟨"types", [
    .ofType "SimpleNamespace" .type none [
      .data .looseOperator "__delattr__ __eq__ __ge__ __getattribute__ __gt__ __init__ __le__ __lt__ __ne__",
      .data .looseOperator "__repr__ __setattr__", .data .nothing "__hash__", .data .routine "__new__",
      .data .looseRoutine "__reduce__"]]⟩]

end ActivityLog.Builtin
