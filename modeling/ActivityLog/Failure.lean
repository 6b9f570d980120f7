import ActivityLog.Text.Quoted
import ActivityLog.Value.Display

/-!
# Failures

What can go wrong: a fault of a host, a function or a value, an error of the configuration, or a document that does
not fit its model. `Failure.text` is the wording that diagnostics carry, `Failure.kindName` the name of the kind.
-/

namespace ActivityLog

/-- Kinds of faults. The first two are what a host raises that refuses a write. -/
inductive FaultKind where
  | attribute
  | type
  | key
  | value
  | runtime
  | other (name : String)
  deriving DecidableEq, Repr

namespace FaultKind

/-- The kind that a name stands for. -/
def ofName (name : String) : FaultKind :=
  if name = "AttributeError" then .attribute
  else if name = "TypeError" then .type
  else if name = "KeyError" then .key
  else if name = "ValueError" then .value
  else if name = "RuntimeError" then .runtime
  else .other name

/-- The name of a kind. -/
def name : FaultKind → String
  | .attribute => "AttributeError"
  | .type => "TypeError"
  | .key => "KeyError"
  | .value => "ValueError"
  | .runtime => "RuntimeError"
  | .other name => name

theorem name_ofName (s : String) : (ofName s).name = s := by
  unfold ofName
  repeat' split
  all_goals simp_all [name]

end FaultKind

/-- Classes of configuration errors. -/
inductive ErrorClass where
  | base
  | configuration
  | fieldConfiguration
  deriving DecidableEq, Repr

/-- The name of a class. -/
def ErrorClass.name : ErrorClass → String
  | .base => "NetlogError"
  | .configuration => "ConfigurationError"
  | .fieldConfiguration => "FieldConfigError"

/-- The code of an error that is given none. -/
def ErrorClass.defaultCode : ErrorClass → String
  | .base => "NETLOG_ERROR"
  | .configuration => "CONFIG_ERROR"
  | .fieldConfiguration => "FIELD_CONFIG_ERROR"

/-- A place in a document: a name or an index. -/
inductive Place where
  | name (s : String)
  | index (i : Nat)
  deriving DecidableEq, Repr

/-- Something wrong in a document: its kind, its place and its wording. -/
structure Issue where
  kind : String
  place : List Place
  message : String
  deriving DecidableEq, Repr

/-- The issue seen from outside a part of the document. -/
def Issue.within (outer : List Place) (i : Issue) : Issue := { i with place := outer ++ i.place }

/-- An error of the configuration. -/
structure ConfigError where
  errorClass : ErrorClass
  code : String
  message : String
  context : OrderedMap Value
  /-- What is wrong with the document that caused the error. -/
  issues : List Issue := []

namespace ConfigError

/-- An error of a class; an empty code stands for the default one. -/
def make (errorClass : ErrorClass) (message : String) (code : String := "") (context : List (String × Value) := []) :
    ConfigError where
  errorClass
  code := if code.isEmpty then errorClass.defaultCode else code
  message
  context := .ofList context

/-- The wording: the code in brackets, if there is one, and the message. -/
def text (e : ConfigError) : String :=
  if e.code.isEmpty then e.message else "[" ++ e.code ++ "] " ++ e.message

/-- Whether the error is one of the configuration, and not only of the base class. -/
def isConfiguration (e : ConfigError) : Bool := e.errorClass != .base

/-- An error in a field configuration. -/
def field (message : String) (context : List (String × Value)) : ConfigError :=
  make .fieldConfiguration message "" context

end ConfigError

/-- A failure. -/
inductive Failure where
  /-- A fault with its wording. -/
  | fault (kind : FaultKind) (text : String)
  | configuration (e : ConfigError)
  /-- A document that does not fit the named model. -/
  | invalid (model : String) (issues : List Issue)

namespace Failure

/-- Kinds that need more than a message, with what is said when they get no more. -/
def demanding : List (String × String) :=
  [("UnicodeDecodeError", "function takes exactly 5 arguments (1 given)"),
    ("UnicodeEncodeError", "function takes exactly 5 arguments (1 given)"),
    ("UnicodeTranslateError", "function takes exactly 4 arguments (1 given)"),
    ("ExceptionGroup", "BaseExceptionGroup.__new__() takes exactly 2 arguments (1 given)")]

/-- Other names of kinds. -/
def otherNames : List (String × String) := [("IOError", "OSError"), ("EnvironmentError", "OSError")]

/-- The fault that names a kind and a message. A missing key shows its message in quotes. -/
def raised (kind message : String) : Failure :=
  match demanding.lookup kind with
  | some text => .fault .type text
  | none =>
    match FaultKind.ofName ((otherNames.lookup kind).getD kind) with
    | .key => .fault .key (Text.quoted message)
    | k => .fault k message

/-- The fault of a value that cannot be looked up by. -/
def unhashable (v : Value) : Failure := .fault .type ("unhashable type: '" ++ v.qualifiedTypeName ++ "'")

/-- The fault of a value that lacks an attribute. -/
def noAttribute (v : Value) (name : String) : Failure :=
  .fault .attribute ("'" ++ v.qualifiedTypeName ++ "' object has no attribute '" ++ name ++ "'")

/-- The fault of a value that cannot be called. -/
def notCallable (v : Value) : Failure := .fault .type ("'" ++ v.qualifiedTypeName ++ "' object is not callable")

/-- The fault of a whole number that has too many digits to be written. -/
def longNumber : Failure :=
  .fault .value ("Exceeds the limit (" ++ toString Value.digitLimit ++
    " digits) for integer string conversion; use sys.set_int_max_str_digits() to increase the limit")

/-- Whether an attribute is missing. -/
def lacksAttribute : Failure → Bool
  | .fault .attribute _ => true
  | _ => false

/-- The name of the kind of failure. -/
def kindName : Failure → String
  | .fault kind _ => kind.name
  | .configuration e => e.errorClass.name
  | .invalid _ _ => "ValidationError"

/-- The wording of a failure. -/
def text : Failure → String
  | .fault _ text => text
  | .configuration e => e.text
  | .invalid model issues =>
    toString issues.length ++ " validation error" ++ (if issues.length = 1 then "" else "s") ++ " for " ++ model

end Failure

/-- The plain text of a value, whose numbers must not be too long to be written. -/
def Value.written (v : Value) : Except Failure String :=
  if v.holdsLong then .error .longNumber else .ok v.display

theorem Value.written_text (s : String) : (Value.text s).written = .ok s := rfl

end ActivityLog
