import ActivityLog.Descriptor.Reference
import ActivityLog.Logging.State

/-!
# The loggers above a logger

Loggers form a tree by the points in their names. A logger without a threshold of its own has that of the nearest
logger above it that has one; its lines go to its own handlers, then to those of the loggers above. `threshold` finds
the one, `stages` the other. Main statement: where nothing was set, the shared configuration decides
(`threshold_nameSpace`).
-/

namespace ActivityLog

/-- What was set for one logger. -/
structure LoggerOptions where
  /-- Zero is none. -/
  threshold : Int := 0
  handlers : List Value := []

/-- What was set for single loggers, by their names. -/
abbrev LoggerTree := OrderedMap LoggerOptions

namespace LoggerTree

/-- The root of all. -/
def root : String := "root"

/-- A logger and those above it, the nearest first. -/
def above (logger : String) : List String :=
  if logger = root then [root]
  else
    let parts := Reference.splitPoints logger.toList
    (List.range parts.length).map (fun i => String.ofList (List.intercalate ['.'] (parts.take (parts.length - i)))) ++
      [root]

/-- What was set for a logger. The root has the threshold of `info` unless another one was set. -/
def options (tree : LoggerTree) (logger : String) : LoggerOptions :=
  (tree.get? logger).getD { threshold := if logger = root then Level.info.number else 0 }

/-- A logger's own threshold; that of the name space is in the shared configuration. -/
def ownThreshold (tree : LoggerTree) (state : LoggingState) (logger : String) : Int :=
  if logger = LoggingState.nameSpace then state.threshold else (tree.options logger).threshold

/-- The threshold that applies to a logger: its own, or that of the nearest logger above that has one. -/
def threshold (tree : LoggerTree) (state : LoggingState) (logger : String) : Int :=
  (((above logger).map (tree.ownThreshold state)).find? (· ≠ 0)).getD 0

/-- Whether a logger's lines of a level are written. -/
def passes (tree : LoggerTree) (state : LoggingState) (logger : String) (level : Level) : Bool :=
  decide (tree.threshold state logger ≤ level.number)

/-- Where a logger's line goes, stage by stage: whether it is seen there, and what else handles it. -/
def stages (tree : LoggerTree) (logger : String) : List (Bool × List Value) :=
  (above logger).map fun name => (name == LoggingState.nameSpace, (tree.options name).handlers)

/-- The fault of a handler that is none; one may be too high to be asked at all. -/
def handlerFault (level : Level) (handler : Value) : Option Failure :=
  match handler.attr? "level" with
  | none => some (.noAttribute handler "level")
  | some (.int n) => if n ≤ level.number then some (.noAttribute handler "handle") else none
  | some v =>
    some (.fault .type ("'>=' not supported between instances of 'int' and '" ++ v.qualifiedTypeName ++ "'"))

/-- The logger right above one, by its type. -/
def parentType (logger : String) : String :=
  if logger = root then "NoneType"
  else if LoggingState.covers logger && logger != LoggingState.nameSpace then "Logger" else "RootLogger"

theorem threshold_nameSpace (state : LoggingState) :
    LoggerTree.threshold {} state LoggingState.nameSpace = state.effective := by
  have h : above LoggingState.nameSpace = [LoggingState.nameSpace, root] := by rfl
  have hr : (root = LoggingState.nameSpace) = False := by simp [root, LoggingState.nameSpace]
  have ho : (options {} root).threshold = Level.info.number := rfl
  have hn : Level.info.number ≠ 0 := by decide
  by_cases hz : state.threshold = 0 <;>
    simp [threshold, h, ownThreshold, LoggingState.effective, hz, hr, ho, hn]

end LoggerTree

end ActivityLog
