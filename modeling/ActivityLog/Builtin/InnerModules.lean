import ActivityLog.Descriptor.Catalogue

/-!
# Modules that the used ones use

What can be reached through the modules that the application takes from.
-/

namespace ActivityLog.Builtin

/-- The library's modules that its used ones use. -/
def innerModules : List Module := [
  ⟨"atexit", [
    .native "atexit" (.other "the first argument must be callable") "register", .native "atexit" .one "unregister"]⟩,
  ⟨"codecs", [
    .ofType "BufferedIncrementalDecoder" .type (some ("codecs", "IncrementalDecoder")) [
      .function "__init__" "self errors?", .function "decode" "self input final?", .function "getstate" "self",
      .function "reset" "self", .function "setstate" "self state"],
    .ofType "BufferedIncrementalEncoder" .type (some ("codecs", "IncrementalEncoder")) [
      .function "__init__" "self errors?", .function "encode" "self input final?", .function "getstate" "self",
      .function "reset" "self", .function "setstate" "self state"],
    .ofType "Codec" .type none [.function "decode" "self input errors?", .function "encode" "self input errors?"],
    .ofType "CodecInfo" .type none [
      .known "__new__" "codecs" "CodecInfo.__new__" "cls encode decode * **",
      .function "__repr__" "self"],
    .ofType "IncrementalDecoder" .type none [
      .function "__init__" "self errors?", .function "decode" "self input final?", .function "getstate" "self",
      .function "reset" "self", .function "setstate" "self state"],
    .ofType "IncrementalEncoder" .type none [
      .function "__init__" "self errors?", .function "encode" "self input final?", .function "getstate" "self",
      .function "reset" "self", .function "setstate" "self state"],
    .ofType "StreamReader" .type (some ("codecs", "Codec")) [
      .function "__enter__" "self", .function "__exit__" "self type value tb",
      .function "__getattr__" "self name getattr?", .function "__init__" "self stream errors?",
      .function "__iter__" "self", .function "__next__" "self", .function "__reduce_ex__" "self proto",
      .function "decode" "self input errors?", .function "read" "self size? chars? firstline?",
      .function "readline" "self size? keepends?", .function "readlines" "self sizehint? keepends?",
      .function "reset" "self", .function "seek" "self offset whence?"],
    .ofType "StreamReaderWriter" .type none [
      .function "__enter__" "self", .function "__exit__" "self type value tb",
      .function "__getattr__" "self name getattr?", .function "__init__" "self stream Reader Writer errors?",
      .function "__iter__" "self", .function "__next__" "self", .function "__reduce_ex__" "self proto",
      .function "read" "self size?", .function "readline" "self size?", .function "readlines" "self sizehint?",
      .function "reset" "self", .function "seek" "self offset whence?", .function "write" "self data",
      .function "writelines" "self list", .data .text "encoding"],
    .ofType "StreamRecoder" .type none [
      .function "__enter__" "self", .function "__exit__" "self type value tb",
      .function "__getattr__" "self name getattr?",
      .function "__init__" "self stream encode decode Reader Writer errors?", .function "__iter__" "self",
      .function "__next__" "self", .function "__reduce_ex__" "self proto", .function "read" "self size?",
      .function "readline" "self size?", .function "readlines" "self sizehint?", .function "reset" "self",
      .function "seek" "self offset whence?", .function "write" "self data", .function "writelines" "self list",
      .data .text "data_encoding file_encoding"],
    .ofType "StreamWriter" .type (some ("codecs", "Codec")) [
      .function "__enter__" "self", .function "__exit__" "self type value tb",
      .function "__getattr__" "self name getattr?", .function "__init__" "self stream errors?",
      .function "__reduce_ex__" "self proto", .function "reset" "self", .function "seek" "self offset whence?",
      .function "write" "self object", .function "writelines" "self list"],
    .function "EncodedFile" "file data_encoding file_encoding? errors?",
    .known "backslashreplace_errors" "None" "backslashreplace_errors" "* **", .function "getdecoder" "encoding",
    .function "getencoder" "encoding", .function "getincrementaldecoder" "encoding",
    .function "getincrementalencoder" "encoding", .function "getreader" "encoding", .function "getwriter" "encoding",
    .known "ignore_errors" "None" "ignore_errors" "* **", .function "iterdecode" "iterator encoding errors? **",
    .function "iterencode" "iterator encoding errors? **", .function "make_encoding_map" "decoding_map",
    .function "make_identity_dict" "rng", .known "namereplace_errors" "None" "namereplace_errors" "* **",
    .function "open" "filename mode? encoding? errors? buffering?",
    .known "replace_errors" "None" "replace_errors" "* **", .known "strict_errors" "None" "strict_errors" "* **",
    .known "xmlcharrefreplace_errors" "None" "xmlcharrefreplace_errors" "* **",
    .data (.instance "bytes") "BOM BOM32_BE BOM32_LE BOM64_BE BOM64_LE BOM_BE BOM_LE BOM_UTF16 BOM_UTF16_BE",
    .data (.instance "bytes") "BOM_UTF16_LE BOM_UTF32 BOM_UTF32_BE BOM_UTF32_LE BOM_UTF8", .data .list "__all__",
    .data .module "builtins sys",
    .native "_codecs" (.just 2) "register_error",
    .native "_codecs" (.most 2) "ascii_decode ascii_encode escape_decode escape_encode latin_1_decode",
    .native "_codecs" (.most 2) "latin_1_encode raw_unicode_escape_encode readbuffer_encode",
    .native "_codecs" (.most 2) "unicode_escape_encode utf_16_be_encode utf_16_le_encode utf_32_be_encode",
    .native "_codecs" (.most 2) "utf_32_le_encode utf_7_encode utf_8_encode",
    .native "_codecs" (.other "") "charmap_decode charmap_encode decode encode raw_unicode_escape_decode",
    .native "_codecs" (.other "") "unicode_escape_decode utf_16_be_decode utf_16_decode utf_16_encode",
    .native "_codecs" (.other "") "utf_16_ex_decode utf_16_le_decode utf_32_be_decode utf_32_decode",
    .native "_codecs" (.other "") ("utf_32_encode utf_32_ex_decode utf_32_le_decode utf_7_decode " ++
        "utf_8_decode"),
    .native "_codecs" .one "charmap_build lookup lookup_error register unregister"]⟩,
  ⟨"collections", [
    .ofType "ChainMap" .type (some ("collections.abc", "MutableMapping")) [
      .function "__bool__" "self", .function "__contains__" "self key",
      .known "__copy__" "collections" "ChainMap.copy" "self", .function "__delitem__" "self key",
      .function "__getitem__" "self key", .function "__init__" "self *", .function "__ior__" "self other",
      .function "__iter__" "self", .function "__len__" "self", .function "__missing__" "self key",
      .function "__or__" "self other", .function "__repr__" "self", .function "__ror__" "self other",
      .function "__setitem__" "self key value", .function "clear" "self", .function "copy" "self",
      .classMethod "fromkeys" "cls iterable *", .function "get" "self key default?",
      .function "new_child" "self m? **", .function "pop" "self key *", .function "popitem" "self",
      .property "parents"],
    .ofType "Counter" .type none [
      .function "__add__" "self other", .function "__and__" "self other", .function "__delitem__" "self elem",
      .function "__eq__" "self other", .function "__ge__" "self other", .function "__gt__" "self other",
      .function "__iadd__" "self other", .function "__iand__" "self other", .function "__init__" "self iterable? **",
      .function "__ior__" "self other", .function "__isub__" "self other", .function "__le__" "self other",
      .function "__lt__" "self other", .function "__missing__" "self key", .function "__ne__" "self other",
      .function "__neg__" "self", .function "__or__" "self other", .function "__pos__" "self",
      .function "__reduce__" "self", .function "__repr__" "self", .function "__sub__" "self other",
      .function "copy" "self", .function "elements" "self", .classMethod "fromkeys" "cls iterable v?",
      .function "most_common" "self n?", .function "subtract" "self iterable? **", .function "total" "self",
      .function "update" "self iterable? **", .data .nothing "__hash__"],
    .ofType "OrderedDict" .type none [
      .data .looseOperator "__delitem__ __eq__ __ge__ __gt__ __init__ __ior__ __iter__ __le__ __lt__ __ne__",
      .data .looseOperator "__or__ __repr__ __ror__ __setitem__", .data .nothing "__hash__",
      .data .looseRoutine "__reduce__ __reversed__ __sizeof__ clear copy items keys move_to_end pop popitem",
      .data .looseRoutine "setdefault update values", .data .routine "fromkeys"],
    .ofType "UserDict" .type (some ("collections.abc", "MutableMapping")) [
      .function "__contains__" "self key", .function "__copy__" "self", .function "__delitem__" "self key",
      .function "__getitem__" "self key", .function "__init__" "self dict? **", .function "__ior__" "self other",
      .function "__iter__" "self", .function "__len__" "self", .function "__or__" "self other",
      .function "__repr__" "self", .function "__ror__" "self other", .function "__setitem__" "self key item",
      .function "copy" "self", .classMethod "fromkeys" "cls iterable value?"],
    .ofType "UserList" .type none [
      .function "__add__" "self other", .function "__contains__" "self item", .function "__copy__" "self",
      .function "__delitem__" "self i", .function "__eq__" "self other", .function "__ge__" "self other",
      .function "__getitem__" "self i", .function "__gt__" "self other", .function "__iadd__" "self other",
      .function "__imul__" "self n", .function "__init__" "self initlist?", .function "__le__" "self other",
      .function "__len__" "self", .function "__lt__" "self other", .function "__mul__" "self n",
      .function "__radd__" "self other", .function "__repr__" "self",
      .known "__rmul__" "collections" "UserList.__mul__" "self n", .function "__setitem__" "self i item",
      .function "append" "self item", .function "clear" "self", .function "copy" "self",
      .function "count" "self item", .function "extend" "self other", .function "index" "self item *",
      .function "insert" "self i item", .function "pop" "self i?", .function "remove" "self item",
      .function "reverse" "self", .function "sort" "self * **", .data .nothing "__hash__"],
    .ofType "UserString" .type (some ("collections.abc", "Sequence")) [
      .function "__add__" "self other", .function "__complex__" "self", .function "__contains__" "self char",
      .function "__eq__" "self string", .function "__float__" "self", .function "__ge__" "self string",
      .function "__getitem__" "self index", .function "__getnewargs__" "self", .function "__gt__" "self string",
      .function "__hash__" "self", .function "__init__" "self seq", .function "__int__" "self",
      .function "__le__" "self string", .function "__len__" "self", .function "__lt__" "self string",
      .function "__mod__" "self args", .function "__mul__" "self n", .function "__radd__" "self other",
      .function "__repr__" "self", .function "__rmod__" "self template",
      .known "__rmul__" "collections" "UserString.__mul__" "self n", .function "__str__" "self",
      .function "capitalize" "self", .function "casefold" "self", .function "center" "self width *",
      .function "count" "self sub start? end?", .function "encode" "self encoding? errors?",
      .function "endswith" "self suffix start? end?", .function "expandtabs" "self tabsize?",
      .function "find" "self sub start? end?", .function "format" "self * **", .function "format_map" "self mapping",
      .function "index" "self sub start? end?", .function "isalnum" "self", .function "isalpha" "self",
      .function "isascii" "self", .function "isdecimal" "self", .function "isdigit" "self",
      .function "isidentifier" "self", .function "islower" "self", .function "isnumeric" "self",
      .function "isprintable" "self", .function "isspace" "self", .function "istitle" "self",
      .function "isupper" "self", .function "join" "self seq", .function "ljust" "self width *",
      .function "lower" "self", .function "lstrip" "self chars?", .function "partition" "self sep",
      .function "removeprefix" "self prefix", .function "removesuffix" "self suffix",
      .function "replace" "self old new maxsplit?", .function "rfind" "self sub start? end?",
      .function "rindex" "self sub start? end?", .function "rjust" "self width *", .function "rpartition" "self sep",
      .function "rsplit" "self sep? maxsplit?", .function "rstrip" "self chars?",
      .function "split" "self sep? maxsplit?", .function "splitlines" "self keepends?",
      .function "startswith" "self prefix start? end?", .function "strip" "self chars?", .function "swapcase" "self",
      .function "title" "self", .function "translate" "self *", .function "upper" "self",
      .function "zfill" "self width", .data .routine "maketrans"],
    .ofType "_OrderedDictKeysView" .type none [.function "__reversed__" "self"],
    .ofType "defaultdict" .type none [
      .data .routine "__class_getitem__", .data .looseRoutine "__copy__ __missing__ __reduce__ copy",
      .data .looseOperator "__getattribute__ __init__ __or__ __repr__ __ror__",
      .data (.instance "member_descriptor") "default_factory"],
    .ofType "deque" .type none [
      .data .looseOperator ("__add__ __contains__ __delitem__ __eq__ __ge__ __getattribute__ " ++
        "__getitem__ __gt__"),
      .data .looseOperator "__iadd__ __imul__ __init__ __iter__ __le__ __len__ __lt__ __mul__ __ne__ __repr__",
      .data .looseOperator "__rmul__ __setitem__", .data .routine "__class_getitem__ __new__",
      .data .looseRoutine "__copy__ __reduce__ __reversed__ __sizeof__ append appendleft clear copy count",
      .data .looseRoutine "extend extendleft index insert pop popleft remove reverse rotate",
      .data .nothing "__hash__", .data (.instance "getset_descriptor") "maxlen"],
    .function "namedtuple" "typename field_names =", .data .list "__all__", .data .module "abc"]⟩,
  ⟨"copyreg", [
    .function "__newobj__" "cls *", .function "__newobj_ex__" "cls args kwargs",
    .function "add_extension" "module name code", .function "clear_extension_cache" "",
    .function "constructor" "object", .function "pickle" "ob_type pickle_function constructor_ob?",
    .function "pickle_complex" "c", .function "pickle_union" "obj", .function "remove_extension" "module name code",
    .data .list "__all__", .data .table "dispatch_table"]⟩,
  ⟨"functools", [
    .ofType "cached_property" .type none [
      .bracketed, .function "__get__" "self instance owner?",
      .function "__init__" "self func", .function "__set_name__" "self owner name"],
    .ofType "partial" .type none [
      .data .looseOperator "__call__ __delattr__ __getattribute__ __repr__ __setattr__",
      .data .routine "__class_getitem__ __new__", .data .looseRoutine "__reduce__ __setstate__",
      .data (.instance "member_descriptor") "__vectorcalloffset__ args func keywords"],
    .ofType "partialmethod" .type none [
      .bracketed, .function "__get__" "self obj cls?",
      .function "__init__" "self func * **", .function "__repr__" "self", .property "__isabstractmethod__"],
    .ofType "singledispatchmethod" .type none [
      .function "__get__" "self obj cls?", .function "__init__" "self func", .function "register" "self cls method?",
      .property "__isabstractmethod__"],
    .function "cache" "user_function", .function "lru_cache" "maxsize? typed?",
    .known "namedtuple" "collections" "namedtuple" "typename field_names =",
    .known "recursive_repr" "reprlib" "recursive_repr" "fillvalue?", .function "singledispatch" "func",
    .function "total_ordering" "cls", .function "update_wrapper" "wrapper wrapped assigned? updated?",
    .function "wraps" "wrapped assigned? updated?", .data .tuple "WRAPPER_ASSIGNMENTS WRAPPER_UPDATES",
    .data .list "__all__",
    .foreignTypes "types" "GenericAlias", .foreignTypes "_thread" "RLock",
    .native "_functools" (.other "") "reduce", .native "_functools" (.upTo 1) "cmp_to_key",
    .native "_abc" .none "get_cache_token"]⟩,
  ⟨"io", [
    .ofType "BufferedIOBase" .type none [],
    .ofType "IOBase" .type none [],
    .ofType "RawIOBase" .type none [],
    .ofType "TextIOBase" .type none [],
    .ofType "UnsupportedOperation" .type (some ("builtins", "Exception")) [],
    .function "__getattr__" "name", .data .number "DEFAULT_BUFFER_SIZE SEEK_CUR SEEK_END SEEK_SET",
    .data .list "__all__", .data .text "__author__", .data .module "abc",
    .foreignTypes "builtins" "BlockingIOError",
    .foreignTypes "_io" "BufferedRWPair BufferedRandom BufferedReader BufferedWriter BytesIO FileIO",
    .foreignTypes "_io" "IncrementalNewlineDecoder StringIO", .shared "_io" "TextIOWrapper",
    .native "io" (.most 2) "text_encoding", .native "io" (.other "") "open", .native "io" (.upTo 1) "open_code"]⟩,
  ⟨"os", [
    .ofType "PathLike" .type (some ("abc", "ABC")) [
      .bracketed, .function "__fspath__" "self",
      .classMethod "__subclasshook__" "cls subclass"],
    .ofType "_Environ" .type (some ("collections.abc", "MutableMapping")) [
      .function "__delitem__" "self key", .function "__getitem__" "self key",
      .function "__init__" "self data encodekey decodekey encodevalue decodevalue", .function "__ior__" "self other",
      .function "__iter__" "self", .function "__len__" "self", .function "__or__" "self other",
      .function "__repr__" "self", .function "__ror__" "self other", .function "__setitem__" "self key value",
      .function "copy" "self", .function "setdefault" "self key value"],
    .ofType "stat_result" .type none [
      .data .routine "__new__", .data .looseRoutine "__reduce__", .data .looseOperator "__repr__",
      .data .number "n_fields n_sequence_fields n_unnamed_fields",
      .data (.instance "member_descriptor") ("st_atime st_atime_ns st_blksize st_blocks st_ctime st_ctime_ns st_dev " ++
        "st_gid"),
      .data (.instance "member_descriptor") "st_ino st_mode st_mtime st_mtime_ns st_nlink st_rdev st_size st_uid"],
    .ofType "statvfs_result" .type none [
      .data .routine "__new__", .data .looseRoutine "__reduce__", .data .looseOperator "__repr__",
      .data (.instance "member_descriptor") ("f_bavail f_bfree f_blocks f_bsize f_favail f_ffree f_files f_flag " ++
        "f_frsize f_fsid"),
      .data (.instance "member_descriptor") "f_namemax", .data .number "n_fields n_sequence_fields n_unnamed_fields"],
    .ofType "terminal_size" .type none [
      .data .routine "__new__", .data .looseRoutine "__reduce__", .data .looseOperator "__repr__",
      .data (.instance "member_descriptor") "columns lines",
      .data .number "n_fields n_sequence_fields n_unnamed_fields"],
    .known "error" "builtins" "OSError" "* **", .function "execl" "file *", .function "execle" "file *",
    .function "execlp" "file *", .function "execlpe" "file *", .function "execvp" "file args",
    .function "execvpe" "file args env", .function "fdopen" "fd mode? buffering? encoding? * **",
    .known "fsdecode" "os" "_fscodec.<locals>.fsdecode" "filename",
    .known "fsencode" "os" "_fscodec.<locals>.fsencode" "filename", .function "fwalk" "top? topdown? onerror? =",
    .function "get_exec_path" "env?", .function "getenv" "key default?", .function "getenvb" "key default?",
    .function "makedirs" "name mode? exist_ok?", .function "popen" "cmd mode? buffering?",
    .function "removedirs" "name", .function "renames" "old new", .function "spawnl" "mode file *",
    .function "spawnle" "mode file *", .function "spawnlp" "mode file *", .function "spawnlpe" "mode file *",
    .function "spawnv" "mode file args", .function "spawnve" "mode file args env",
    .function "spawnvp" "mode file args", .function "spawnvpe" "mode file args env",
    .function "walk" "top topdown? onerror? followlinks?", .object "environ" ("os", "_Environ"),
    .object "environb" ("os", "_Environ"),
    .data .number "CLD_CONTINUED CLD_DUMPED CLD_EXITED CLD_KILLED CLD_STOPPED CLD_TRAPPED EFD_CLOEXEC",
    .data .number "EFD_NONBLOCK EFD_SEMAPHORE EX_CANTCREAT EX_CONFIG EX_DATAERR EX_IOERR EX_NOHOST",
    .data .number "EX_NOINPUT EX_NOPERM EX_NOUSER EX_OK EX_OSERR EX_OSFILE EX_PROTOCOL EX_SOFTWARE",
    .data .number "EX_TEMPFAIL EX_UNAVAILABLE EX_USAGE F_LOCK F_OK F_TEST F_TLOCK F_ULOCK NGROUPS_MAX",
    .data .number "O_ACCMODE O_APPEND O_ASYNC O_CLOEXEC O_CREAT O_DIRECT O_DIRECTORY O_DSYNC O_EXCL",
    .data .number "O_FSYNC O_LARGEFILE O_NDELAY O_NOATIME O_NOCTTY O_NOFOLLOW O_NONBLOCK O_PATH",
    .data .number "O_RDONLY O_RDWR O_RSYNC O_SYNC O_TMPFILE O_TRUNC O_WRONLY POSIX_FADV_DONTNEED",
    .data .number "POSIX_FADV_NOREUSE POSIX_FADV_NORMAL POSIX_FADV_RANDOM POSIX_FADV_SEQUENTIAL",
    .data .number "POSIX_FADV_WILLNEED POSIX_SPAWN_CLOSE POSIX_SPAWN_DUP2 POSIX_SPAWN_OPEN PRIO_PGRP",
    .data .number "PRIO_PROCESS PRIO_USER P_ALL P_NOWAIT P_NOWAITO P_PGID P_PID P_WAIT RTLD_DEEPBIND",
    .data .number "RTLD_GLOBAL RTLD_LAZY RTLD_LOCAL RTLD_NODELETE RTLD_NOLOAD RTLD_NOW R_OK",
    .data .number "SCHED_BATCH SCHED_FIFO SCHED_IDLE SCHED_OTHER SCHED_RESET_ON_FORK SCHED_RR",
    .data .number "SEEK_CUR SEEK_DATA SEEK_END SEEK_HOLE SEEK_SET SPLICE_F_MORE SPLICE_F_MOVE",
    .data .number "SPLICE_F_NONBLOCK ST_APPEND ST_MANDLOCK ST_NOATIME ST_NODEV ST_NODIRATIME",
    .data .number "ST_NOEXEC ST_NOSUID ST_RDONLY ST_RELATIME ST_SYNCHRONOUS ST_WRITE TMP_MAX",
    .data .number "WCONTINUED WEXITED WNOHANG WNOWAIT WSTOPPED WUNTRACED W_OK XATTR_CREATE",
    .data .number "XATTR_REPLACE XATTR_SIZE_MAX X_OK", .data .list "__all__", .data .module "abc st sys",
    .data .nothing "altsep", .data .table "confstr_names pathconf_names sysconf_names",
    .data .text "curdir defpath devnull extsep linesep name pardir pathsep sep",
    .data (.instance "bool") "supports_bytes_environ",
    .data (.instance "set") "supports_dir_fd supports_effective_ids supports_fd supports_follow_symlinks",
    .foreignTypes "posix" "DirEntry sched_param times_result uname_result waitid_result",
    .foreignTypes "types" "GenericAlias", .shared "collections.abc" "Mapping MutableMapping",
    .moduleAs "path" "posixpath",
    .native "posix" (.byPlace 2) "mkdir mkfifo utime",
    .native "posix" (.exactly 2) "sched_setaffinity sched_setparam setpgid tcsetpgrp waitpid",
    .native "posix" (.exactlyByPlace 1) "stat",
    .native "posix" (.exactlyByPlace 2) "access chmod getxattr link removexattr rename replace",
    .native "posix" (.just 2) "closerange execv fpathconf ftruncate getgrouplist initgroups makedev",
    .native "posix" (.just 2) "putenv read readv set_blocking set_inheritable setregid setreuid write",
    .native "posix" (.just 2) "writev", .native "posix" (.just 4) "posix_fadvise",
    .native "posix" (.most 1) "get_terminal_size",
    .native "posix" (.other "") "abort chown dup2 execve fchown fork forkpty kill killpg lchown lockf lseek",
    .native "posix" (.other "") "mknod open posix_fallocate posix_spawn posix_spawnp pread preadv pwrite",
    .native "posix" (.other "") "pwritev sched_setscheduler setpriority setresgid setresuid setxattr splice",
    .native "posix" (.other "") "symlink waitid",
    .native "posix" (.other "register_at_fork() takes no positional arguments") "register_at_fork",
    .native "posix" (.other "sendfile() missing required argument 'count' (pos 4)") "sendfile",
    .native "posix" (.upTo 1) "WEXITSTATUS WIFCONTINUED WIFEXITED WIFSIGNALED WIFSTOPPED WSTOPSIG",
    .native "posix" (.upTo 1) "WTERMSIG chdir chroot close device_encoding eventfd_read fchdir fdatasync",
    .native "posix" (.upTo 1) "fspath fstat fsync getpgid listdir scandir sched_get_priority_max",
    .native "posix" (.upTo 1) "sched_get_priority_min statvfs system wait3 waitstatus_to_exitcode",
    .native "posix" (.upTo 2) "eventfd eventfd_write fchmod getpriority listxattr lstat pathconf readlink",
    .native "posix" (.upTo 2) "remove rmdir truncate unlink wait4",
    .native "posix" .none "cpu_count ctermid getcwd getcwdb getegid geteuid getgid getgroups",
    .native "posix" .none "getloadavg getlogin getpgrp getpid getppid getresgid getresuid getuid",
    .native "posix" .none "openpty pipe sched_yield setpgrp setsid sync times uname wait",
    .native "posix" .one "WCOREDUMP confstr dup fstatvfs get_blocking get_inheritable getsid isatty",
    .native "posix" .one "login_tty major minor nice pipe2 sched_getaffinity sched_getparam",
    .native "posix" .one "sched_getscheduler sched_rr_get_interval setegid seteuid setgid setgroups",
    .native "posix" .one "setuid strerror sysconf tcgetpgrp ttyname umask unsetenv urandom"]⟩,
  ⟨"posixpath", [
    .function "abspath" "path", .function "basename" "p", .function "commonpath" "paths",
    .known "commonprefix" "genericpath" "commonprefix" "m", .function "dirname" "p",
    .known "exists" "genericpath" "exists" "path", .function "expanduser" "path", .function "expandvars" "path",
    .known "getatime" "genericpath" "getatime" "filename", .known "getctime" "genericpath" "getctime" "filename",
    .known "getmtime" "genericpath" "getmtime" "filename", .known "getsize" "genericpath" "getsize" "filename",
    .function "isabs" "s", .known "isdir" "genericpath" "isdir" "s", .known "isfile" "genericpath" "isfile" "path",
    .function "islink" "path", .function "ismount" "path", .function "join" "a *", .function "lexists" "path",
    .function "normcase" "s", .function "normpath" "path", .function "realpath" "filename =",
    .function "relpath" "path start?", .known "samefile" "genericpath" "samefile" "f1 f2",
    .known "sameopenfile" "genericpath" "sameopenfile" "fp1 fp2", .known "samestat" "genericpath" "samestat" "s1 s2",
    .function "split" "p", .function "splitdrive" "p", .function "splitext" "p", .data .list "__all__",
    .data .nothing "altsep", .data .text "curdir defpath devnull extsep pardir pathsep sep",
    .data .module "genericpath os stat sys", .data (.instance "bool") "supports_unicode_filenames"]⟩,
  ⟨"platform", [
    .ofType "uname_result" .type (some ("platform", "uname_result_base")) [
      .function "__getitem__" "self key", .function "__iter__" "self", .function "__len__" "self",
      .function "__reduce__" "self", .data (.instance "cached_property") "processor"],
    .function "architecture" "executable? bits? linkage?", .function "freedesktop_os_release" "",
    .function "java_ver" "release? vendor? vminfo? osinfo?",
    .function "libc_ver" "executable? lib? version? chunksize?", .function "mac_ver" "release? versioninfo? machine?",
    .function "machine" "", .function "node" "", .function "platform" "aliased? terse?", .function "processor" "",
    .function "python_branch" "", .function "python_build" "", .function "python_compiler" "",
    .function "python_implementation" "", .function "python_revision" "", .function "python_version" "",
    .function "python_version_tuple" "", .function "release" "", .function "system" "",
    .function "system_alias" "system release version", .function "uname" "", .function "version" "",
    .function "win32_edition" "", .function "win32_is_iot" "", .function "win32_ver" "release? version? csd? ptype?",
    .data .text "__version__", .data .module "collections functools itertools os re sys"]⟩,
  ⟨"string", [
    .ofType "Formatter" .type none [
      .function "check_unused_args" "self used_args args kwargs", .function "convert_field" "self value conversion",
      .function "format" "self format_string * **", .function "format_field" "self value format_spec",
      .function "get_field" "self field_name args kwargs", .function "get_value" "self key args kwargs",
      .function "parse" "self format_string", .function "vformat" "self format_string args kwargs"],
    .ofType "Template" .type none [
      .function "__init__" "self template", .classMethod "__init_subclass__" "cls",
      .function "get_identifiers" "self", .function "is_valid" "self", .function "safe_substitute" "self mapping? **",
      .function "substitute" "self mapping? **", .data .nothing "braceidpattern", .data .text "delimiter idpattern",
      .data (.instance "RegexFlag") "flags", .data (.instance "Pattern") "pattern"],
    .function "capwords" "s sep?", .data .list "__all__",
    .data .text "ascii_letters ascii_lowercase ascii_uppercase digits hexdigits octdigits printable",
    .data .text "punctuation whitespace"]⟩,
  ⟨"sys", [
    .known "__breakpointhook__" "sys" "breakpointhook" "* **", .known "__displayhook__" "sys" "displayhook" "* **",
    .known "__excepthook__" "sys" "excepthook" "* **", .known "__unraisablehook__" "sys" "unraisablehook" "* **",
    .object "__stderr__" ("_io", "TextIOWrapper"), .object "__stdin__" ("_io", "TextIOWrapper"),
    .object "__stdout__" ("_io", "TextIOWrapper"), .object "stderr" ("_io", "TextIOWrapper"),
    .object "stdin" ("_io", "TextIOWrapper"), .object "stdout" ("_io", "TextIOWrapper"),
    .data .text "abiflags base_exec_prefix base_prefix byteorder exec_prefix executable",
    .data .text "float_repr_style platform platlibdir prefix version",
    .data .number "api_version hexversion maxsize maxunicode",
    .data .list "argv meta_path orig_argv path path_hooks warnoptions", .data .tuple "builtin_module_names",
    .data (.instance "bool") "dont_write_bytecode", .data (.instance "flags") "flags",
    .data (.instance "float_info") "float_info", .data (.instance "hash_info") "hash_info",
    .data (.instance "SimpleNamespace") "implementation", .data (.instance "int_info") "int_info",
    .data .table "modules path_importer_cache", .data .nothing "pycache_prefix",
    .data (.instance "frozenset") "stdlib_module_names", .data (.instance "thread_info") "thread_info",
    .data (.instance "version_info") "version_info",
    .native "sys" (.just 2) "call_tracing", .native "sys" (.most 1) "exit",
    .native "sys" (.other "") "audit excepthook",
    .native "sys" (.other "function takes at most 2 arguments (3 given)") "set_asyncgen_hooks",
    .native "sys" (.other "set_trace() takes 0 positional arguments but 3 were given") "breakpointhook",
    .native "sys" (.upTo 1) "addaudithook set_coroutine_origin_tracking_depth set_int_max_str_digits",
    .native "sys" (.upTo 2) "getsizeof",
    .native "sys" .none "exc_info exception get_asyncgen_hooks get_coroutine_origin_tracking_depth",
    .native "sys" .none "get_int_max_str_digits getallocatedblocks getdefaultencoding",
    .native "sys" .none "getdlopenflags getfilesystemencodeerrors getfilesystemencoding getprofile",
    .native "sys" .none "getrecursionlimit getswitchinterval gettrace is_finalizing",
    .native "sys" .one "displayhook getrefcount intern setdlopenflags setprofile setrecursionlimit",
    .native "sys" .one "setswitchinterval settrace unraisablehook"]⟩,
  ⟨"threading", [
    .ofType "Barrier" .type none [
      .function "__init__" "self parties action? timeout?", .function "__repr__" "self", .function "abort" "self",
      .function "reset" "self", .function "wait" "self timeout?", .property "broken n_waiting parties"],
    .ofType "BoundedSemaphore" .type (some ("threading", "Semaphore")) [
      .function "__init__" "self value?", .function "__repr__" "self", .function "release" "self n?"],
    .ofType "BrokenBarrierError" .type (some ("builtins", "Exception")) [],
    .ofType "Condition" .type none [
      .function "__enter__" "self", .function "__exit__" "self *", .function "__init__" "self lock?",
      .function "__repr__" "self", .function "notify" "self n?", .function "notifyAll" "self",
      .function "notify_all" "self", .function "wait" "self timeout?", .function "wait_for" "self predicate timeout?"],
    .ofType "Event" .type none [
      .function "__init__" "self", .function "__repr__" "self", .function "clear" "self", .function "isSet" "self",
      .function "is_set" "self", .function "set" "self", .function "wait" "self timeout?"],
    .ofType "Semaphore" .type none [
      .known "__enter__" "threading" "Semaphore.acquire" "self blocking? timeout?",
      .function "__exit__" "self t v tb", .function "__init__" "self value?", .function "__repr__" "self",
      .function "acquire" "self blocking? timeout?", .function "release" "self n?"],
    .ofType "Thread" .type none [
      .function "__init__" "self group? target? name? args? kwargs? =", .function "__repr__" "self",
      .function "getName" "self", .function "isDaemon" "self", .function "is_alive" "self",
      .function "join" "self timeout?", .function "run" "self", .function "setDaemon" "self daemonic",
      .function "setName" "self name", .function "start" "self", .property "daemon ident name native_id"],
    .ofType "Timer" .type (some ("threading", "Thread")) [
      .function "__init__" "self interval function args? kwargs?", .function "cancel" "self", .function "run" "self"],
    .ofType "_MainThread" .type (some ("threading", "Thread")) [.function "__init__" "self"],
    .known "ExceptHookArgs" "_thread" "_ExceptHookArgs" "* **", .known "Lock" "_thread" "allocate_lock" "* **",
    .function "RLock" "* **", .known "ThreadError" "builtins" "RuntimeError" "* **",
    .known "__excepthook__" "_thread" "_excepthook" "* **", .function "activeCount" "", .function "active_count" "",
    .function "currentThread" "", .function "current_thread" "", .function "enumerate" "",
    .known "excepthook" "_thread" "_excepthook" "* **", .function "getprofile" "", .function "gettrace" "",
    .known "local" "_thread" "_local" "* **", .function "main_thread" "", .function "setprofile" "func",
    .function "settrace" "func", .data (.instance "float") "TIMEOUT_MAX", .data .list "__all__",
    .data .module "functools",
    .shared "_weakrefset" "WeakSet",
    .native "_thread" (.upTo 1) "stack_size", .native "_thread" .none "get_ident get_native_id"]⟩,
  ⟨"time", [
    .ofType "struct_time" .type none [
      .data .routine "__new__", .data .looseRoutine "__reduce__", .data .looseOperator "__repr__",
      .data .number "n_fields n_sequence_fields n_unnamed_fields",
      .data (.instance "member_descriptor") ("tm_gmtoff tm_hour tm_isdst tm_mday tm_min tm_mon tm_sec tm_wday " ++
        "tm_yday tm_year"),
      .data (.instance "member_descriptor") "tm_zone"],
    .data .number "CLOCK_BOOTTIME CLOCK_MONOTONIC CLOCK_MONOTONIC_RAW CLOCK_PROCESS_CPUTIME_ID",
    .data .number "CLOCK_REALTIME CLOCK_THREAD_CPUTIME_ID altzone daylight timezone", .data .tuple "tzname",
    .native "time" (.exactly 1) "clock_getres clock_gettime get_clock_info pthread_getcpuclockid",
    .native "time" (.exactly 2) "clock_settime", .native "time" (.most 1) "asctime",
    .native "time" (.other "_strptime_time() takes from 1 to 2 positional arguments but 3 were given") "strptime",
    .native "time" (.other "clock_gettime() takes exactly 1 argument (3 given)") "clock_gettime_ns",
    .native "time" (.other "clock_settime() takes exactly 2 arguments (3 given)") "clock_settime_ns",
    .native "time" (.upTo 1) "ctime gmtime localtime", .native "time" (.upTo 2) "strftime",
    .native "time" .none "monotonic monotonic_ns perf_counter perf_counter_ns process_time",
    .native "time" .none "process_time_ns thread_time thread_time_ns time time_ns tzset",
    .native "time" .one "mktime sleep"]⟩,
  ⟨"traceback", [
    .ofType "FrameSummary" .type none [
      .function "__eq__" "self other", .function "__getitem__" "self pos",
      .function "__init__" "self filename lineno name =", .function "__iter__" "self", .function "__len__" "self",
      .function "__repr__" "self", .data .nothing "__hash__", .data .tuple "__slots__",
      .data (.instance "member_descriptor") "colno end_colno end_lineno filename lineno locals name", .property "line"],
    .ofType "StackSummary" .type none [
      .classMethod "extract" "klass frame_gen =", .function "format" "self",
      .function "format_frame_summary" "self frame_summary", .classMethod "from_list" "klass a_list"],
    .ofType "TracebackException" .type none [
      .function "__eq__" "self other", .function "__init__" "self exc_type exc_value exc_traceback =",
      .function "__str__" "self", .function "format" "self =", .function "format_exception_only" "self",
      .classMethod "from_exception" "cls exc * **", .function "print" "self =", .data .nothing "__hash__"],
    .function "clear_frames" "tb", .function "extract_stack" "f? limit?", .function "extract_tb" "tb limit?",
    .function "format_exc" "limit? chain?", .function "format_exception" "exc value? tb? limit? chain?",
    .function "format_exception_only" "exc value?", .function "format_list" "extracted_list",
    .function "format_stack" "f? limit?", .function "format_tb" "tb limit?",
    .function "print_exc" "limit? file? chain?", .function "print_exception" "exc value? tb? limit? file? chain?",
    .function "print_last" "limit? file? chain?", .function "print_list" "extracted_list file?",
    .function "print_stack" "f? limit? file?", .function "print_tb" "tb limit? file?", .function "walk_stack" "f",
    .function "walk_tb" "tb", .data .list "__all__", .data .module "collections itertools linecache sys textwrap",
    .foreignTypes "contextlib" "suppress"]⟩,
  ⟨"warnings", [
    .ofType "WarningMessage" .type none [
      .function "__init__" "self message category filename lineno file? line? source?", .function "__str__" "self"],
    .ofType "catch_warnings" .type none [
      .function "__enter__" "self", .function "__exit__" "self *", .function "__init__" "self =",
      .function "__repr__" "self"],
    .function "filterwarnings" "action message? category? module? lineno? append?",
    .function "formatwarning" "message category filename lineno line?", .function "resetwarnings" "",
    .function "showwarning" "message category filename lineno file? line?",
    .function "simplefilter" "action category? lineno? append?", .data .list "__all__ filters",
    .data .text "defaultaction", .data .table "onceregistry", .data .module "sys",
    .native "_warnings" (.other "'dict' object cannot be interpreted as an integer") "warn",
    .native "_warnings" (.other "warn_explicit() argument 3 must be str, not dict") "warn_explicit"]⟩,
  ⟨"weakref", [
    .ofType "CallableProxyType" .type none [
      .data .looseOperator "__abs__ __add__ __and__ __bool__ __call__ __contains__ __delattr__ __delitem__",
      .data .looseOperator "__divmod__ __eq__ __float__ __floordiv__ __ge__ __getattribute__ __getitem__",
      .data .looseOperator "__gt__ __iadd__ __iand__ __ifloordiv__ __ilshift__ __imatmul__ __imod__ __imul__",
      .data .looseOperator "__index__ __int__ __invert__ __ior__ __ipow__ __irshift__ __isub__ __iter__",
      .data .looseOperator "__itruediv__ __ixor__ __le__ __len__ __lshift__ __lt__ __matmul__ __mod__ __mul__",
      .data .looseOperator "__ne__ __neg__ __next__ __or__ __pos__ __pow__ __radd__ __rand__ __rdivmod__",
      .data .looseOperator "__repr__ __rfloordiv__ __rlshift__ __rmatmul__ __rmod__ __rmul__ __ror__ __rpow__",
      .data .looseOperator "__rrshift__ __rshift__ __rsub__ __rtruediv__ __rxor__ __setattr__ __setitem__",
      .data .looseOperator "__str__ __sub__ __truediv__ __xor__", .data .nothing "__hash__"],
    .ofType "KeyedRef" .type (some ("weakref", "ReferenceType")) [
      .function "__init__" "self ob callback key",
      .known "__new__" "weakref" "KeyedRef.__new__" "type ob callback key", .data .tuple "__slots__",
      .data (.instance "member_descriptor") "key"],
    .ofType "ProxyType" .type none [
      .data .looseOperator "__abs__ __add__ __and__ __bool__ __contains__ __delattr__ __delitem__ __divmod__",
      .data .looseOperator "__eq__ __float__ __floordiv__ __ge__ __getattribute__ __getitem__ __gt__ __iadd__",
      .data .looseOperator ("__iand__ __ifloordiv__ __ilshift__ __imatmul__ __imod__ __imul__ " ++
        "__index__ __int__"),
      .data .looseOperator "__invert__ __ior__ __ipow__ __irshift__ __isub__ __iter__ __itruediv__ __ixor__",
      .data .looseOperator "__le__ __len__ __lshift__ __lt__ __matmul__ __mod__ __mul__ __ne__ __neg__",
      .data .looseOperator "__next__ __or__ __pos__ __pow__ __radd__ __rand__ __rdivmod__ __repr__",
      .data .looseOperator "__rfloordiv__ __rlshift__ __rmatmul__ __rmod__ __rmul__ __ror__ __rpow__",
      .data .looseOperator "__rrshift__ __rshift__ __rsub__ __rtruediv__ __rxor__ __setattr__ __setitem__",
      .data .looseOperator "__str__ __sub__ __truediv__ __xor__", .data .looseRoutine "__bytes__ __reversed__",
      .data .nothing "__hash__"],
    .ofType "ReferenceType" .type none [
      .data .looseOperator "__call__ __eq__ __ge__ __gt__ __hash__ __init__ __le__ __lt__ __ne__ __repr__",
      .data (.instance "member_descriptor") "__callback__", .data .routine "__class_getitem__ __new__"],
    .ofType "WeakKeyDictionary" .type (some ("collections.abc", "MutableMapping")) [
      .function "__contains__" "self key", .known "__copy__" "weakref" "WeakKeyDictionary.copy" "self",
      .function "__deepcopy__" "self memo", .function "__delitem__" "self key", .function "__getitem__" "self key",
      .function "__init__" "self dict?", .function "__ior__" "self other",
      .known "__iter__" "weakref" "WeakKeyDictionary.keys" "self", .function "__len__" "self",
      .function "__or__" "self other", .function "__repr__" "self", .function "__ror__" "self other",
      .function "__setitem__" "self key value", .function "copy" "self", .function "get" "self key default?",
      .function "items" "self", .function "keyrefs" "self", .function "keys" "self", .function "pop" "self key *",
      .function "popitem" "self", .function "setdefault" "self key default?", .function "update" "self dict? **",
      .function "values" "self"],
    .ofType "WeakMethod" .type (some ("weakref", "ReferenceType")) [
      .function "__call__" "self", .function "__eq__" "self other", .function "__ne__" "self other",
      .known "__new__" "weakref" "WeakMethod.__new__" "cls meth callback?", .data .looseOperator "__hash__",
      .data .tuple "__slots__"],
    .ofType "WeakValueDictionary" .type (some ("collections.abc", "MutableMapping")) [
      .function "__contains__" "self key", .known "__copy__" "weakref" "WeakValueDictionary.copy" "self",
      .function "__deepcopy__" "self memo", .function "__delitem__" "self key", .function "__getitem__" "self key",
      .function "__init__" "self other? **", .function "__ior__" "self other",
      .known "__iter__" "weakref" "WeakValueDictionary.keys" "self", .function "__len__" "self",
      .function "__or__" "self other", .function "__repr__" "self", .function "__ror__" "self other",
      .function "__setitem__" "self key value", .function "copy" "self", .function "get" "self key default?",
      .function "items" "self", .function "itervaluerefs" "self", .function "keys" "self",
      .function "pop" "self key *", .function "popitem" "self", .function "setdefault" "self key default?",
      .function "update" "self other? **", .function "valuerefs" "self", .function "values" "self"],
    .ofType "finalize" .type none [
      .function "__call__" "self _?", .function "__init__" "self obj func * **", .function "__repr__" "self",
      .function "detach" "self", .function "peek" "self", .data .tuple "__slots__", .property "alive atexit"],
    .renamed "ref" "weakref" "ReferenceType", .data .tuple "ProxyTypes", .data .list "__all__",
    .data .module "itertools sys",
    .shared "_weakrefset" "WeakSet",
    .native "_weakref" (.most 2) "proxy", .native "_weakref" .one "getweakrefcount getweakrefs"]⟩,
  ⟨"_weakrefset", [
    .ofType "WeakSet" .type none [
      .known "__and__" "_weakrefset" "WeakSet.intersection" "self other",
      .bracketed, .function "__contains__" "self item",
      .function "__eq__" "self other", .known "__ge__" "_weakrefset" "WeakSet.issuperset" "self other",
      .function "__gt__" "self other", .function "__iand__" "self other", .function "__init__" "self data?",
      .function "__ior__" "self other", .function "__isub__" "self other", .function "__iter__" "self",
      .function "__ixor__" "self other", .known "__le__" "_weakrefset" "WeakSet.issubset" "self other",
      .function "__len__" "self", .function "__lt__" "self other",
      .known "__or__" "_weakrefset" "WeakSet.union" "self other", .function "__reduce__" "self",
      .function "__repr__" "self", .known "__sub__" "_weakrefset" "WeakSet.difference" "self other",
      .known "__xor__" "_weakrefset" "WeakSet.symmetric_difference" "self other", .function "add" "self item",
      .function "clear" "self", .function "copy" "self", .function "difference" "self other",
      .function "difference_update" "self other", .function "discard" "self item",
      .function "intersection" "self other", .function "intersection_update" "self other",
      .function "isdisjoint" "self other", .function "issubset" "self other", .function "issuperset" "self other",
      .function "pop" "self", .function "remove" "self item", .function "symmetric_difference" "self other",
      .function "symmetric_difference_update" "self other", .function "union" "self other",
      .function "update" "self other", .data .nothing "__hash__"]]⟩,
  ⟨"_io", [
    .ofType "_IOBase" .type none [
      .data .looseOperator "__del__ __iter__ __next__",
      .data .looseRoutine "__enter__ __exit__ close fileno flush isatty readable readline readlines seek",
      .data .looseRoutine "seekable tell truncate writable writelines", .data .routine "__new__",
      .data (.instance "getset_descriptor") "closed"],
    .ofType "_TextIOBase" .type (some ("_io", "_IOBase")) [
      .data .looseRoutine "detach read readline write",
      .data (.instance "getset_descriptor") "encoding errors newlines"],
    .ofType "TextIOWrapper" .type (some ("_io", "_TextIOBase")) [
      .data .looseOperator "__init__ __next__ __repr__", .data .routine "__new__",
      .data (.instance "member_descriptor") "buffer encoding line_buffering write_through",
      .data .looseRoutine "close detach fileno flush isatty read readable readline reconfigure seek seekable",
      .data .looseRoutine "tell truncate writable write",
      .data (.instance "getset_descriptor") "closed errors name newlines"]]⟩,
  ⟨"importlib.machinery", [
    .function "all_suffixes" "", .data .list "BYTECODE_SUFFIXES DEBUG_BYTECODE_SUFFIXES EXTENSION_SUFFIXES",
    .data .list "OPTIMIZED_BYTECODE_SUFFIXES SOURCE_SUFFIXES",
    .foreignTypes "_frozen_importlib" "BuiltinImporter FrozenImporter ModuleSpec",
    .foreignTypes "_frozen_importlib_external" ("ExtensionFileLoader FileFinder NamespaceLoader PathFinder " ++
        "SourceFileLoader"),
    .foreignTypes "_frozen_importlib_external" "SourcelessFileLoader WindowsRegistryFinder"]⟩,
  ⟨"json.scanner", [
    .known "c_make_scanner" "_json" "Scanner" "* **", .known "make_scanner" "_json" "Scanner" "* **",
    .function "py_make_scanner" "context", .object "NUMBER_RE" ("re", "Pattern"), .data .list "__all__",
    .data .module "re"]⟩]

end ActivityLog.Builtin
