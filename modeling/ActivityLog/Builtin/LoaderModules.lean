import ActivityLog.Descriptor.Catalogue

/-!
# Modules of loaders

What can be reached through the module that imports others: its modules for finding and loading modules, for their
resources and for what is installed.
-/

namespace ActivityLog.Builtin

/-- The modules within the one that imports others, and those that do the work. -/
def loaderModules : List Module := [
  ⟨"_frozen_importlib", [
    .ofType "ModuleSpec" .type none [
      .function "__eq__" "self other", .function "__init__" "self name loader =", .function "__repr__" "self",
      .property "cached has_location parent", .data .nothing "__hash__",
      .held .text "_cached cached name origin parent",
      .held .nothing "loader_state", .held .number "_initializing _set_fileattr has_location",
      .held .list "_uninitialized_submodules submodule_search_locations",
      .holds "loader" ("_frozen_importlib_external", "SourceFileLoader")],
    .ofType "BuiltinImporter" .type none [
      .known "create_module" "_frozen_importlib" "BuiltinImporter.create_module" "spec",
      .known "exec_module" "_frozen_importlib" "BuiltinImporter.exec_module" "module",
      .classMethod "find_module" "cls fullname path?", .classMethod "find_spec" "cls fullname path? target?",
      .classMethod "get_code" "self fullname", .classMethod "get_source" "self fullname",
      .classMethod "is_package" "self fullname", .classMethod "load_module" "self fullname",
      .known "module_repr" "_frozen_importlib" "BuiltinImporter.module_repr" "module", .data .text "_ORIGIN"],
    .ofType "FrozenImporter" .type none [
      .classMethod "_fix_up_module" "cls module", .classMethod "_resolve_filename" "cls fullname alias? ispkg?",
      .known "create_module" "_frozen_importlib" "FrozenImporter.create_module" "spec",
      .known "exec_module" "_frozen_importlib" "FrozenImporter.exec_module" "module",
      .classMethod "find_module" "cls fullname path?", .classMethod "find_spec" "cls fullname path? target?",
      .classMethod "get_code" "self fullname", .classMethod "get_source" "self fullname",
      .classMethod "is_package" "self fullname", .classMethod "load_module" "cls fullname",
      .known "module_repr" "_frozen_importlib" "FrozenImporter.module_repr" "m", .data .text "_ORIGIN _SEP"],
    .ofType "_DeadlockError" .type (some ("builtins", "Exception")) [],
    .ofType "_DummyModuleLock" .type none [
      .function "__init__" "self name", .function "__repr__" "self", .function "acquire" "self",
      .function "release" "self"],
    .ofType "_ImportLockContext" .type none [
      .function "__enter__" "self", .function "__exit__" "self exc_type exc_value exc_traceback"],
    .ofType "_ModuleLock" .type none [
      .function "__init__" "self name", .function "__repr__" "self", .function "acquire" "self",
      .function "has_deadlock" "self", .function "release" "self"],
    .ofType "_ModuleLockManager" .type none [
      .function "__enter__" "self", .function "__exit__" "self * **", .function "__init__" "self name"],
    .function "__import__" "name globals? locals? fromlist? level?", .function "_builtin_from_name" "name",
    .function "_calc___package__" "globals", .function "_call_with_frames_removed" "f * **",
    .function "_exec" "spec module", .function "_find_and_load" "name import_",
    .function "_find_and_load_unlocked" "name import_", .function "_find_spec" "name path target?",
    .function "_find_spec_legacy" "finder name path", .function "_gcd_import" "name package? level?",
    .function "_get_module_lock" "name", .function "_handle_fromlist" "module fromlist import_ =",
    .function "_init_module_attrs" "spec module =", .function "_install" "sys_module _imp_module",
    .function "_install_external_importers" "", .function "_load" "spec",
    .function "_load_backward_compatible" "spec", .function "_load_module_shim" "self fullname",
    .function "_load_unlocked" "spec", .function "_lock_unlock_module" "name", .function "_module_repr" "module",
    .function "_module_repr_from_spec" "spec", .function "_new_module" "name", .function "_object_name" "obj",
    .function "_requires_builtin" "fxn", .function "_requires_frozen" "fxn",
    .function "_resolve_name" "name package level", .function "_sanity_check" "name package level",
    .function "_setup" "sys_module _imp_module", .function "_spec_from_module" "module loader? origin?",
    .function "_verbose_message" "message * =", .function "_wrap" "new old", .function "module_from_spec" "spec",
    .function "spec_from_loader" "name loader =", .data .text "_ERR_MSG _ERR_MSG_PREFIX",
    .data (.instance "object") "_NEEDS_LOADING", .data .table "_blocking_on _module_locks",
    .moduleAs "_bootstrap_external" "_frozen_importlib_external", .data .module "_imp _thread _warnings _weakref",
    .modules "sys"]⟩,
  ⟨"_frozen_importlib_external", [
    .ofType "_LoaderBasics" .type none [
      .function "create_module" "self spec", .function "exec_module" "self module",
      .function "is_package" "self fullname", .function "load_module" "self fullname"],
    .ofType "SourceLoader" .type (some ("_frozen_importlib_external", "_LoaderBasics")) [
      .function "_cache_bytecode" "self source_path cache_path data", .function "get_code" "self fullname",
      .function "get_source" "self fullname", .function "path_mtime" "self path", .function "path_stats" "self path",
      .function "set_data" "self path data", .function "source_to_code" "self data path ="],
    .ofType "FileLoader" .type none [
      .function "__eq__" "self other", .function "__hash__" "self", .function "__init__" "self fullname path",
      .function "get_data" "self path", .function "get_filename" "self name? *",
      .function "get_resource_reader" "self name? *", .function "load_module" "self name? *"],
    .ofType "SourceFileLoader" .type (some ("_frozen_importlib_external", "FileLoader")) [
      .function "_cache_bytecode" "self source_path bytecode_path data", .function "path_stats" "self path",
      .function "set_data" "self path data =", .held .text "name path",
      .known "create_module" "_frozen_importlib_external" "_LoaderBasics.create_module" "self spec",
      .known "exec_module" "_frozen_importlib_external" "_LoaderBasics.exec_module" "self module",
      .known "get_code" "_frozen_importlib_external" "SourceLoader.get_code" "self fullname",
      .known "get_source" "_frozen_importlib_external" "SourceLoader.get_source" "self fullname",
      .known "is_package" "_frozen_importlib_external" "_LoaderBasics.is_package" "self fullname",
      .known "path_mtime" "_frozen_importlib_external" "SourceLoader.path_mtime" "self path",
      .known "source_to_code" "_frozen_importlib_external" "SourceLoader.source_to_code" "self data path"],
    .ofType "ExtensionFileLoader" .type (some ("_frozen_importlib_external", "FileLoader")) [
      .function "__eq__" "self other", .function "__hash__" "self", .function "__init__" "self name path",
      .function "create_module" "self spec", .function "exec_module" "self module",
      .function "get_code" "self fullname", .function "get_filename" "self name? * **",
      .function "get_source" "self fullname", .function "is_package" "self fullname"],
    .ofType "FileFinder" .type none [
      .function "__init__" "self path *", .function "__repr__" "self", .function "_fill_cache" "self",
      .function "_get_spec" "self loader_class fullname path smsl target", .function "find_loader" "self fullname",
      .known "find_module" "_frozen_importlib_external" "_find_module_shim" "self fullname",
      .function "find_spec" "self fullname target?", .function "invalidate_caches" "self",
      .classMethod "path_hook" "cls *"],
    .ofType "NamespaceLoader" .type none [
      .function "__init__" "self name path path_finder", .function "create_module" "self spec",
      .function "exec_module" "self module", .function "get_code" "self fullname",
      .function "get_resource_reader" "self module", .function "get_source" "self fullname",
      .function "is_package" "self fullname", .function "load_module" "self fullname",
      .known "module_repr" "_frozen_importlib_external" "NamespaceLoader.module_repr" "module"],
    .ofType "PathFinder" .type none [
      .classMethod "_get_spec" "cls fullname path target?", .classMethod "_legacy_get_spec" "cls fullname finder",
      .known "_path_hooks" "_frozen_importlib_external" "PathFinder._path_hooks" "path",
      .classMethod "_path_importer_cache" "cls path",
      .known "find_distributions" "_frozen_importlib_external" "PathFinder.find_distributions" "* **",
      .classMethod "find_module" "cls fullname path?", .classMethod "find_spec" "cls fullname path? target?",
      .known "invalidate_caches" "_frozen_importlib_external" "PathFinder.invalidate_caches" ""],
    .ofType "SourcelessFileLoader" .type (some ("_frozen_importlib_external", "FileLoader")) [
      .function "get_code" "self fullname", .function "get_source" "self fullname"],
    .ofType "WindowsRegistryFinder" .type none [
      .known "_open_registry" "_frozen_importlib_external" "WindowsRegistryFinder._open_registry" "key",
      .classMethod "_search_registry" "cls fullname", .classMethod "find_module" "cls fullname path?",
      .classMethod "find_spec" "cls fullname path? target?", .data (.instance "bool") "DEBUG_BUILD",
      .data .text "REGISTRY_KEY REGISTRY_KEY_DEBUG"],
    .ofType "_NamespacePath" .type none [
      .function "__contains__" "self item", .function "__getitem__" "self index",
      .function "__init__" "self name path path_finder", .function "__iter__" "self", .function "__len__" "self",
      .function "__repr__" "self", .function "__setitem__" "self index path",
      .function "_find_parent_path_names" "self", .function "_get_parent_path" "self",
      .function "_recalculate" "self", .function "append" "self item", .data .number "_epoch"],
    .function "_calc_mode" "path", .function "_check_name" "method",
    .function "_classify_pyc" "data name exc_details", .function "_code_to_hash_pyc" "code source_hash checked?",
    .function "_code_to_timestamp_pyc" "code mtime? source_size?", .known "_code_type" "builtins" "code" "* **",
    .function "_compile_bytecode" "data name? bytecode_path? source_path?",
    .function "_find_module_shim" "self fullname", .function "_fix_up_module" "ns name pathname cpathname?",
    .function "_get_cached" "filename", .function "_get_sourcefile" "bytecode_path",
    .function "_get_supported_file_loaders" "", .function "_install" "_bootstrap_module",
    .function "_make_relax_case" "", .function "_pack_uint32" "x", .function "_path_is_mode_type" "path mode",
    .function "_path_isabs" "path", .function "_path_isdir" "path", .function "_path_isfile" "path",
    .function "_path_join" "*", .function "_path_split" "path", .function "_path_stat" "path",
    .known "_relax_case" "_frozen_importlib_external" "_make_relax_case.<locals>._relax_case" "",
    .function "_set_bootstrap_module" "_bootstrap_module", .function "_unpack_uint16" "data",
    .function "_unpack_uint32" "data", .function "_validate_hash_pyc" "data source_hash name exc_details",
    .function "_validate_timestamp_pyc" "data source_mtime source_size name exc_details",
    .function "_write_atomic" "path data mode?", .function "cache_from_source" "path debug_override? =",
    .function "decode_source" "source_bytes", .function "source_from_cache" "path",
    .function "spec_from_file_location" "name location? =",
    .renamed "_NamespaceLoader" "_frozen_importlib_external" "NamespaceLoader",
    .data .list "BYTECODE_SUFFIXES DEBUG_BYTECODE_SUFFIXES EXTENSION_SUFFIXES",
    .data .list "OPTIMIZED_BYTECODE_SUFFIXES SOURCE_SUFFIXES", .data (.instance "bytes") "MAGIC_NUMBER",
    .data .tuple "_CASE_INSENSITIVE_PLATFORMS _CASE_INSENSITIVE_PLATFORMS_BYTES_KEY",
    .data .tuple "_CASE_INSENSITIVE_PLATFORMS_STR_KEY path_sep_tuple", .data (.instance "bool") "_MS_WINDOWS",
    .data .text "_OPT _PYCACHE path_sep path_separators", .data (.instance "object") "_POPULATE",
    .data .number "_RAW_MAGIC_NUMBER", .moduleAs "_bootstrap" "_frozen_importlib",
    .data .module "_imp _io _os _warnings marshal", .modules "sys",
    .data (.instance "set") "_pathseps_with_colon"]⟩,
  ⟨"importlib.util", [
    .ofType "LazyLoader" .type none [
      .known "_LazyLoader__check_eager_loader" "importlib.util" "LazyLoader.__check_eager_loader" "loader",
      .function "__init__" "self loader", .function "create_module" "self spec",
      .function "exec_module" "self module", .classMethod "factory" "cls loader"],
    .ofType "_LazyModule" .type none [.function "__delattr__" "self attr", .function "__getattribute__" "self attr"],
    .known "_find_spec" "_frozen_importlib" "_find_spec" "name path target?",
    .function "_find_spec_from_path" "name path?", .function "_module_to_load" "* **",
    .known "_resolve_name" "_frozen_importlib" "_resolve_name" "name package level",
    .known "cache_from_source" "_frozen_importlib_external" "cache_from_source" "path debug_override? =",
    .known "contextmanager" "contextlib" "contextmanager" "func",
    .known "decode_source" "_frozen_importlib_external" "decode_source" "source_bytes",
    .function "find_spec" "name package?", .function "module_for_loader" "fxn",
    .known "module_from_spec" "_frozen_importlib" "module_from_spec" "spec", .function "resolve_name" "name package",
    .function "set_loader" "fxn", .function "set_package" "fxn",
    .known "source_from_cache" "_frozen_importlib_external" "source_from_cache" "path",
    .function "source_hash" "source_bytes",
    .known "spec_from_file_location" "_frozen_importlib_external" "spec_from_file_location" "name location? =",
    .known "spec_from_loader" "_frozen_importlib" "spec_from_loader" "name loader =",
    .data (.instance "bytes") "MAGIC_NUMBER", .data .number "_RAW_MAGIC_NUMBER",
    .data .module "_imp types", .modules "functools sys threading warnings", .foreignTypes "importlib._abc" "Loader"]⟩,
  ⟨"importlib.abc", [
    .ofType "ExecutionLoader" .type (some ("importlib.abc", "InspectLoader")) [
      .function "get_code" "self fullname", .function "get_filename" "self fullname"],
    .ofType "FileLoader" .type none [],
    .ofType "Finder" .type none [.function "__init__" "self", .function "find_module" "self fullname path?"],
    .ofType "InspectLoader" .type none [
      .known "exec_module" "_frozen_importlib_external" "_LoaderBasics.exec_module" "self module",
      .function "get_code" "self fullname", .function "get_source" "self fullname",
      .function "is_package" "self fullname",
      .known "load_module" "_frozen_importlib_external" "_LoaderBasics.load_module" "self fullname",
      .known "source_to_code" "importlib.abc" "InspectLoader.source_to_code" "data path?"],
    .ofType "MetaPathFinder" .type none [
      .function "find_module" "self fullname path", .function "invalidate_caches" "self"],
    .ofType "PathEntryFinder" .type none [
      .function "find_loader" "self fullname",
      .known "find_module" "_frozen_importlib_external" "_find_module_shim" "self fullname",
      .function "invalidate_caches" "self"],
    .ofType "ResourceLoader" .type none [.function "get_data" "self path"],
    .ofType "SourceLoader" .type none [
      .function "path_mtime" "self path", .function "path_stats" "self path", .function "set_data" "self path data"],
    .function "_register" "abstract_cls *", .data .list "__all__",
    .data .module "_bootstrap_external _frozen_importlib _frozen_importlib_external machinery", .modules "abc",
    .modules "warnings", .foreignTypes "importlib._abc" "Loader",
    .foreignTypes "importlib.resources.abc" "ResourceReader Traversable TraversableResources"]⟩,
  ⟨"importlib._abc", [
    .ofType "Loader" .type none [
      .function "create_module" "self spec", .function "load_module" "self fullname",
      .function "module_repr" "self module"],
    .data .module "_bootstrap", .modules "abc warnings"]⟩,
  ⟨"importlib.resources", [
    .known "Resource" "builtins" "str" "* **", .known "as_file" "importlib.resources._common" "as_file" "* **",
    .known "contents" "importlib.resources._legacy" "contents" "* **",
    .known "files" "importlib.resources._common" "files" "package",
    .known "is_resource" "importlib.resources._legacy" "is_resource" "* **",
    .known "open_binary" "importlib.resources._legacy" "open_binary" "* **",
    .known "open_text" "importlib.resources._legacy" "open_text" "* **",
    .known "path" "importlib.resources._legacy" "path" "* **",
    .known "read_binary" "importlib.resources._legacy" "read_binary" "* **",
    .known "read_text" "importlib.resources._legacy" "read_text" "* **",
    .data (.instance "_UnionGenericAlias") "Package", .data .list "__all__",
    .data .module "_adapters _common _itertools _legacy abc readers",
    .foreignTypes "importlib.resources.abc" "ResourceReader"]⟩,
  ⟨"importlib.resources.abc", [
    .ofType "ResourceReader" .type none [
      .function "contents" "self", .function "is_resource" "self path", .function "open_resource" "self resource",
      .function "resource_path" "self resource"],
    .ofType "Traversable" .type none [
      .known "__init__" "typing" "_no_init_or_replace_init" "self * **",
      .known "__subclasshook__" "typing" "Protocol.__init_subclass__.<locals>._proto_hook" "other",
      .function "__truediv__" "self child", .function "is_dir" "self", .function "is_file" "self",
      .function "iterdir" "self", .function "joinpath" "self *", .function "open" "self mode? * **",
      .function "read_bytes" "self", .function "read_text" "self encoding?",
      .data (.instance "bool") "_is_protocol _is_runtime_protocol", .property "name"],
    .ofType "TraversableResources" .type (some ("importlib.resources.abc", "ResourceReader")) [
      .function "contents" "self", .function "files" "self", .function "is_resource" "self path",
      .function "open_resource" "self resource", .function "resource_path" "self resource"],
    .known "Text" "builtins" "str" "* **", .known "runtime_checkable" "typing" "runtime_checkable" "cls",
    .data (.instance "_SpecialGenericAlias") "Iterable Iterator",
    .data (.instance "_SpecialForm") "NoReturn Optional Union", .data (.instance "_UnionGenericAlias") "StrPath",
    .data .list "__all__", .modules "abc io os", .foreignTypes "typing" "Any BinaryIO Protocol"]⟩,
  ⟨"importlib.resources._common", [
    .function "_" "* **", .function "_tempfile" "* **", .function "as_file" "* **", .function "files" "package",
    .function "from_package" "package", .function "get_package" "package", .function "get_resource_reader" "package",
    .function "resolve" "cand", .known "wrap_spec" "importlib.resources._adapters" "wrap_spec" "package",
    .data (.instance "_SpecialForm") "Optional Union", .data (.instance "_UnionGenericAlias") "Package",
    .data .module "contextlib importlib tempfile types", .modules "functools os pathlib",
    .shared "importlib.resources.abc" "ResourceReader Traversable"]⟩,
  ⟨"importlib.metadata", [
    .ofType "Deprecated" .type none [
      .function "__contains__" "self *", .function "__getitem__" "self name", .function "__iter__" "self",
      .function "get" "self name default?", .function "keys" "self", .function "values" "self",
      .data (.instance "partial") "_warn"],
    .ofType "DeprecatedList" .type none [
      .function "__add__" "self other",
      .known "__delitem__" "importlib.metadata" "DeprecatedList._wrap_deprecated_method.<locals>.wrapped" "self * **",
      .function "__eq__" "self other",
      .known "__iadd__" "importlib.metadata" "DeprecatedList._wrap_deprecated_method.<locals>.wrapped" "self * **",
      .known "__setitem__" "importlib.metadata" "DeprecatedList._wrap_deprecated_method.<locals>.wrapped" "self * **",
      .function "_wrap_deprecated_method" "method_name",
      .known "append" "importlib.metadata" "DeprecatedList._wrap_deprecated_method.<locals>.wrapped" "self * **",
      .known "extend" "importlib.metadata" "DeprecatedList._wrap_deprecated_method.<locals>.wrapped" "self * **",
      .known "insert" "importlib.metadata" "DeprecatedList._wrap_deprecated_method.<locals>.wrapped" "self * **",
      .known "pop" "importlib.metadata" "DeprecatedList._wrap_deprecated_method.<locals>.wrapped" "self * **",
      .known "remove" "importlib.metadata" "DeprecatedList._wrap_deprecated_method.<locals>.wrapped" "self * **",
      .known "reverse" "importlib.metadata" "DeprecatedList._wrap_deprecated_method.<locals>.wrapped" "self * **",
      .known "sort" "importlib.metadata" "DeprecatedList._wrap_deprecated_method.<locals>.wrapped" "self * **",
      .data .nothing "__hash__", .data .tuple "__slots__", .data (.instance "partial") "_warn"],
    .ofType "DeprecatedTuple" .type none [.function "__getitem__" "self item", .data (.instance "partial") "_warn"],
    .ofType "Distribution" .type none [
      .known "_convert_egg_info_reqs_to_simple_reqs" "importlib.metadata"
        "Distribution._convert_egg_info_reqs_to_simple_reqs" "sections",
      .classMethod "_deps_from_requires_text" "cls source",
      .known "_discover_resolvers" "importlib.metadata" "Distribution._discover_resolvers" "",
      .function "_read_dist_info_reqs" "self", .function "_read_egg_info_reqs" "self",
      .function "_read_files_distinfo" "self", .function "_read_files_egginfo" "self",
      .known "at" "importlib.metadata" "Distribution.at" "path", .classMethod "discover" "cls **",
      .classMethod "from_name" "cls name", .function "locate_file" "self path", .function "read_text" "self filename",
      .property "_normalized_name entry_points files metadata name requires version"],
    .ofType "DistributionFinder" .type (some ("importlib.abc", "MetaPathFinder")) [
      .function "find_distributions" "self context?"],
    .ofType "EntryPoint" .type (some ("importlib.metadata", "DeprecatedTuple")) [
      .function "__eq__" "self other", .function "__hash__" "self", .function "__init__" "self name value group",
      .function "__iter__" "self", .function "__lt__" "self other", .function "__repr__" "self",
      .function "__setattr__" "self name value", .function "_for" "self dist", .function "_key" "self",
      .function "load" "self", .function "matches" "self **", .property "attr extras module", .data .nothing "dist",
      .data (.instance "Pattern") "pattern"],
    .ofType "EntryPoints" .type (some ("importlib.metadata", "DeprecatedList")) [
      .function "__getitem__" "self name", .known "_from_text" "importlib.metadata" "EntryPoints._from_text" "text",
      .classMethod "_from_text_for" "cls text dist", .function "select" "self **", .data .tuple "__slots__",
      .property "groups names"],
    .ofType "FastPath" .type none [
      .function "__init__" "self root", .function "children" "self", .function "joinpath" "self child",
      .known "lookup" "importlib.metadata._functools" "method_cache.<locals>.wrapper" "self * **",
      .function "search" "self name", .function "zip_children" "self",
      .data (.instance "_lru_cache_wrapper") "__new__", .property "mtime"],
    .ofType "FileHash" .type none [.function "__init__" "self spec", .function "__repr__" "self"],
    .ofType "Lookup" .type none [.function "__init__" "self path", .function "search" "self prepared"],
    .ofType "MetadataPathFinder" .type (some ("importlib.metadata", "DistributionFinder")) [
      .classMethod "_search_paths" "cls name paths", .classMethod "find_distributions" "cls context?",
      .classMethod "invalidate_caches" "cls"],
    .ofType "PackageNotFoundError" .type (some ("builtins", "Exception")) [
      .function "__str__" "self", .property "name"],
    .ofType "PackagePath" .type none [
      .function "locate" "self", .function "read_binary" "self", .function "read_text" "self encoding?"],
    .ofType "PathDistribution" .type (some ("importlib.metadata", "Distribution")) [
      .function "__init__" "self path",
      .known "_name_from_stem" "importlib.metadata" "PathDistribution._name_from_stem" "stem",
      .function "locate_file" "self path", .function "read_text" "self filename", .property "_normalized_name"],
    .ofType "Prepared" .type none [
      .function "__bool__" "self", .function "__init__" "self name",
      .known "legacy_normalize" "importlib.metadata" "Prepared.legacy_normalize" "name",
      .known "normalize" "importlib.metadata" "Prepared.normalize" "name",
      .data .nothing "legacy_normalized normalized"],
    .ofType "Sectioned" .type none [
      .known "read" "importlib.metadata" "Sectioned.read" "text filter_?", .classMethod "section_pairs" "cls text",
      .known "valid" "importlib.metadata" "Sectioned.valid" "line", .data .text "_sample"],
    .ofType "SelectableGroups" .type (some ("importlib.metadata", "Deprecated")) [
      .classMethod "load" "cls eps", .function "select" "self **", .property "_all groups names"],
    .function "_top_level_declared" "dist", .function "_top_level_inferred" "dist",
    .known "always_iterable" "importlib.metadata._itertools" "always_iterable" "obj base_type?",
    .function "distribution" "distribution_name", .function "distributions" "**", .function "entry_points" "**",
    .function "files" "distribution_name", .known "import_module" "importlib" "import_module" "name package?",
    .function "metadata" "distribution_name",
    .known "method_cache" "importlib.metadata._functools" "method_cache" "method cache_wrapper?",
    .function "packages_distributions" "", .known "pass_none" "importlib.metadata._functools" "pass_none" "func",
    .function "requires" "distribution_name",
    .known "unique_everseen" "importlib.metadata._itertools" "unique_everseen" "iterable key?",
    .function "version" "distribution_name", .data (.instance "_SpecialGenericAlias") "List Mapping",
    .data (.instance "_SpecialForm") "Optional Union", .data .list "__all__",
    .data .module "_adapters _collections _functools _itertools _meta _text csv email", .modules "abc collections",
    .data .module "itertools operator textwrap zipfile", .modules "functools os pathlib posixpath re sys warnings",
    .data (.instance "partial") "_unique",
    .foreignTypes "importlib.metadata._collections" "FreezableDefaultDict Pair",
    .foreignTypes "importlib.metadata._meta" "PackageMetadata SimplePath", .foreignTypes "itertools" "starmap",
    .foreignTypes "contextlib" "suppress", .shared "importlib.abc" "MetaPathFinder"]⟩,
  ⟨"importlib.readers", [
    .data .list "__all__",
    .foreignTypes "importlib.resources.readers" "FileReader MultiplexedPath NamespaceReader ZipReader"]⟩]

end ActivityLog.Builtin
