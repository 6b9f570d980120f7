import ActivityLog.Logging.Level
import ActivityLog.Signature

/-!
# Methods of loggers

The methods that a logger has once logging is configured, by name: what each one can be called with, and what it does
with a message. Most write an event at their level; the others take bound values away, ask for a level, or only prepare
a call. Main statement: the method of a level is found under the level's name (`lookup_byName_name`).
-/

namespace ActivityLog

/-- What a method of loggers does. -/
inductive LogMethod.Effect where
  /-- Writes an event at a level. -/
  | write (level : Level)
  /-- Writes an event at the level whose number it is given. -/
  | writeAt
  /-- Takes a bound value away; whether it has to be there. -/
  | unbind (strict : Bool)
  /-- Writes an event at the level whose name it is given. -/
  | writeAs
  /-- Says whether events of a level are written. -/
  | ask
  /-- Sets the threshold of the logger. -/
  | setLevel
  /-- Adds a handler, or takes it away. -/
  | changeHandlers (add : Bool)
  /-- Gives a logger below. -/
  | child
  /-- Takes a finished entry. -/
  | handle
  /-- Does nothing that could be seen. -/
  | idle
  deriving DecidableEq, Repr

/-- A method of loggers. -/
structure LogMethod where
  name : String
  signature : Signature
  effect : LogMethod.Effect
  /-- What defines it, if not a module. -/
  owner : String := "BoundLogger"

namespace LogMethod

/-- The name of a method in the text of its faults. -/
def qualified (m : LogMethod) : String := if m.owner.isEmpty then m.name else m.owner ++ "." ++ m.name

/-- A method that writes events at a level. The event's name may be left out. -/
def writing (name : String) (level : Level) : LogMethod where
  name
  signature := { required := ["self"], optional := ["event"], more := true, moreNames := true }
  effect := .write level

/-- The method of a level. -/
def ofLevel (l : Level) : LogMethod := writing l.name l

/-- A method that only gives back another logger. -/
def rebinding (name : String) : LogMethod where
  name
  signature := { required := ["self"], moreNames := true }
  effect := .idle

/-- A method that prepares a call which nobody makes. -/
def pending (name : String) : LogMethod where
  name
  signature := { required := ["self", "event"], more := true, moreNames := true }
  effect := .idle

/-- A method with a fixed number of parameters, the logger apart. -/
def taking (name : String) (parameters : List String) (effect : Effect) : LogMethod where
  name
  signature := { required := "self" :: parameters }
  effect

/-- What makes a logger. -/
def making : LogMethod :=
  ⟨"__init__", { required := ["self", "logger", "processors", "context"] }, .idle, "BoundLoggerBase"⟩

/-- A method that says whether loggers are the same. -/
def comparing (name : String) : LogMethod := ⟨name, { required := ["self", "other"] }, .idle, "BoundLoggerBase"⟩

/-- Methods that others are built on. -/
def inner : List LogMethod :=
  [making, comparing "__eq__", comparing "__ne__", ⟨"__repr__", { required := ["self"] }, .idle, "BoundLoggerBase"⟩,
    ⟨"_process_event", { required := ["self", "method_name", "event", "event_kw"] }, .idle, "BoundLoggerBase"⟩,
    { name := "_proxy_to_logger", effect := .writeAs,
      signature := { required := ["self", "method_name"], optional := ["event"], more := true, moreNames := true } },
    { name := "_dispatch_to_sync", effect := .idle,
      signature := { required := ["self", "meth", "event", "args", "kw"] } }]

/-- All methods. -/
def all : List LogMethod :=
  [.ofLevel .debug, .ofLevel .info, .ofLevel .warning, .ofLevel .error, .ofLevel .critical,
    writing "exception" .error, writing "fatal" .critical,
    { name := "log", effect := .writeAt,
      signature := { required := ["self", "level"], optional := ["event"], more := true, moreNames := true } },
    rebinding "bind", rebinding "new",
    { name := "unbind", signature := { required := ["self"], more := true }, effect := .unbind true },
    { name := "try_unbind", signature := { required := ["self"], more := true }, effect := .unbind false },
    taking "is_enabled_for" ["level"] .ask, taking "isEnabledFor" ["level"] .ask,
    taking "get_effective_level" [] .idle, taking "getEffectiveLevel" [] .idle, taking "setLevel" ["level"] .setLevel,
    taking "handle" ["record"] .handle, taking "callHandlers" ["record"] .handle, taking "hasHandlers" [] .idle,
    taking "addHandler" ["hdlr"] (.changeHandlers true), taking "removeHandler" ["hdlr"] (.changeHandlers false),
    { name := "findCaller", signature := { required := ["self"], optional := ["stack_info"] }, effect := .idle },
    taking "getChild" ["suffix"] .child,
    { name := "makeRecord", effect := .idle,
      signature := { required := ["self", "name", "level", "fn", "lno", "msg", "args", "exc_info"],
                     optional := ["func", "extra"] } },
    pending "adebug", pending "ainfo", pending "awarning", pending "aerror", pending "acritical", pending "afatal",
    pending "aexception",
    { name := "alog", effect := .idle,
      signature := { required := ["self", "level", "event"], more := true, moreNames := true } }] ++ inner

/-- The methods by name; `warn` is another name of `warning`, and a logger's type makes loggers. -/
def byName : List (String × LogMethod) :=
  (all.map fun m => (m.name, m)) ++ [("warn", .ofLevel .warning), ("__class__", making)]

theorem lookup_byName_name (l : Level) : (byName.lookup l.name).map (·.effect) = some (.write l) := by
  cases l <;> decide

end LogMethod

/-- The level with the name of a method that writes; there is none below `debug`. -/
def Level.ofMethod? (name : String) : Option (Option Level) :=
  if name = "warn" then some (some .warning)
  else if name = "exception" then some (some .error)
  else if name = "notset" then some none
  else (all.find? fun l => l.name == name).map some

/-- The level with a number, which may be given in any kind of number. -/
def Level.ofNumber? (v : Value) : Option Level :=
  all.find? fun l => match v with
    | .int n => n == l.number
    | .float x => x == Binary64.ofInt l.number
    | _ => false

end ActivityLog
