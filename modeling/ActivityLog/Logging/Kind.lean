import ActivityLog.Logging.Method

/-!
# The types of loggers

A logger that is asked for once logging is configured is of the full type. One from before that is of a plain type,
which has fewer methods, takes an event's name as a required argument and writes no line that is kept. `LoggerKind`
says what either type has under a name. Main statement: both have a method for each level (`lookup_methods_name`).
-/

namespace ActivityLog

/-- The type of a logger: the plain one before logging is configured, the full one afterwards. -/
inductive LoggerKind where
  | plain
  | full
  deriving DecidableEq, Repr

namespace LogMethod

/-- What a method of plain loggers is called in the text of its faults. -/
def plainOwner : String := "_make_filtering_bound_logger.<locals>"

/-- The type that plain loggers take all else from. -/
def baseOwner : String := "BoundLoggerBase"

/-- The signature of a plain method that takes an event, after some other parameters. -/
def eventSignature (parameters : List String) : Signature where
  required := ("self" :: parameters) ++ ["event"]
  more := true
  moreNames := true

/-- A plain method that writes events at a level. -/
def plainWriting (level : Level) : LogMethod :=
  ⟨"meth", eventSignature [], .write level, plainOwner ++ ".make_method.<locals>"⟩

/-- A plain method that prepares a call which nobody makes. -/
def plainPending : LogMethod := ⟨"ameth", eventSignature [], .idle, plainOwner ++ ".make_method.<locals>"⟩

/-- The methods that plain loggers have in common with the type they are made of. -/
def base : List LogMethod :=
  [making, comparing "__eq__", comparing "__ne__", ⟨"__repr__", { required := ["self"] }, .idle, baseOwner⟩,
    ⟨"_process_event", { required := ["self", "method_name", "event", "event_kw"] }, .idle, baseOwner⟩,
    ⟨"_proxy_to_logger", { required := ["self", "method_name"], optional := ["event"], moreNames := true }, .writeAs,
      baseOwner⟩,
    ⟨"bind", { required := ["self"], moreNames := true }, .idle, baseOwner⟩,
    ⟨"new", { required := ["self"], moreNames := true }, .idle, baseOwner⟩,
    ⟨"unbind", { required := ["self"], more := true }, .unbind true, baseOwner⟩,
    ⟨"try_unbind", { required := ["self"], more := true }, .unbind false, baseOwner⟩]

/-- The methods of plain loggers by name. -/
def plainByName : List (String × LogMethod) :=
  [("debug", plainWriting .debug), ("info", plainWriting .info), ("warning", plainWriting .warning),
    ("error", plainWriting .error), ("critical", plainWriting .critical), ("msg", plainWriting .info),
    ("warn", plainWriting .warning), ("fatal", plainWriting .critical),
    ("exception", ⟨"exception", eventSignature [], .write .error, ""⟩),
    ("log", ⟨"log", eventSignature ["level"], .writeAt, plainOwner⟩),
    ("alog", ⟨"alog", eventSignature ["level"], .idle, plainOwner⟩),
    ("aexception", ⟨"aexception", eventSignature [], .idle, ""⟩),
    ("is_enabled_for", ⟨"<lambda>", { required := ["self", "level"] }, .ask, plainOwner⟩),
    ("get_effective_level", ⟨"<lambda>", { required := ["self"] }, .idle, plainOwner⟩)] ++
  (["adebug", "ainfo", "awarning", "aerror", "acritical", "afatal", "awarn", "amsg"].map fun n => (n, plainPending)) ++
  base.map (fun m => (m.name, m)) ++ [("__class__", making)]

end LogMethod

namespace LoggerKind

/-- The name of the type. -/
def typeName : LoggerKind → String
  | .plain => "BoundLoggerFilteringAtNotset"
  | .full => "BoundLogger"

/-- The methods of the type by name. -/
def methods : LoggerKind → List (String × LogMethod)
  | .plain => LogMethod.plainByName
  | .full => LogMethod.byName

/-- The method of a level. -/
def methodOf (k : LoggerKind) (l : Level) : LogMethod :=
  match k with
  | .plain => .plainWriting l
  | .full => .ofLevel l

/-- What hands an event on to the lines, by the name that its faults give it. -/
def writerName : LoggerKind → String
  | .plain => LogMethod.baseOwner ++ "._proxy_to_logger"
  | .full => "BoundLogger._proxy_to_logger"

/-- What loggers of either type have beside methods. -/
def sharedProperties : List (String × String) :=
  [("_context", "dict"), ("_processors", "list"), ("__dict__", "dict"), ("__annotations__", "dict"),
    ("__module__", "str"), ("__hash__", "NoneType"), ("__weakref__", "NoneType")]

/-- What loggers have beside methods, with the types of it. -/
def properties : LoggerKind → List (String × String)
  | .plain => [("__doc__", "NoneType"), ("_logger", "PrintLogger")] ++ sharedProperties
  | .full =>
    [("name", "str"), ("level", "int"), ("propagate", "bool"), ("handlers", "list"), ("disabled", "bool"),
      ("__doc__", "str")] ++ sharedProperties

theorem lookup_methods_name (k : LoggerKind) (l : Level) :
    k.methods.lookup l.name = some (k.methodOf l) ∧ (k.methodOf l).effect = .write l := by
  cases k <;> cases l <;> exact ⟨rfl, rfl⟩

end LoggerKind

end ActivityLog
