import ActivityLog.Value.Attribute

/-!
# Names that things have by their kind

A reference may follow a name into anything, and most of a thing's names come with its kind: a text has its methods, a
function its own name, a module its file. `Kind.attribute?` says what kind of thing such a name stands for. Main
statement: every thing has the shared names (`attribute?_shared`).
-/

namespace ActivityLog

/-- Kinds of things that a name can stand for. -/
inductive Kind where
  | function
  /-- A function of an object, together with the object. -/
  | method
  /-- A function that comes with a kind, together with the thing. -/
  | routine
  /-- An operator that comes with a kind, together with the thing. -/
  | operator
  /-- A function that comes with a kind, apart from any thing. -/
  | looseRoutine
  /-- An operator that comes with a kind, apart from any thing. -/
  | looseOperator
  | type
  /-- A type with a fixed number of named texts. -/
  | choices
  /-- One of the texts of such a type. -/
  | choice (type : String)
  | text
  | number
  | nothing
  | table
  | list
  | tuple
  | module
  /-- What computes an attribute of a type's objects. -/
  | property
  /-- An object of a type. -/
  | instance (type : String)
  deriving DecidableEq, Repr

namespace Kind

/-- Whether things of the kind can be called. -/
def isCallable : Kind → Bool
  | .function | .method | .routine | .operator | .looseRoutine | .looseOperator | .type | .choices => true
  | _ => false

/-- The name of the kind's type. -/
def typeName : Kind → String
  | .function => "function"
  | .method => "method"
  | .routine => "builtin_function_or_method"
  | .operator => Attribute.operatorType
  | .looseRoutine => "method_descriptor"
  | .looseOperator => "wrapper_descriptor"
  | .type => "type"
  | .choices => "EnumType"
  | .choice owner => owner
  | .text => "str"
  | .number => "int"
  | .nothing => "NoneType"
  | .table => "dict"
  | .list => "list"
  | .tuple => "tuple"
  | .module => "module"
  | .property => "property"
  | .instance owner => owner

/-- The type of plain data whose methods things of the kind have. -/
def plainType : Kind → String
  | .choice _ => "str"
  | k => k.typeName

/-- Names and what kind of thing they stand for. -/
abbrev Names := List (Kind × List String)

/-- The kind of a name. -/
def Names.find? (names : Names) (name : String) : Option Kind :=
  names.findSome? fun (kind, ns) => if ns.contains name then some kind else none

/-- Words of a text. -/
def words (s : String) : List String := Attribute.words s

/-- The methods and the operators of a type, together with the thing. -/
def ofPlain (type : String) : Names := [(.routine, Attribute.routines type), (.operator, Attribute.operators type)]

/-- The names that everything has. -/
def shared : Names := ofPlain "" ++ [(.type, ["__class__"]), (.text, ["__doc__"])]

/-- The names of functions. -/
def ofFunction : Names :=
  [(.table, words "__annotations__ __builtins__ __dict__ __globals__"), (.operator, words "__call__ __get__"),
    (.nothing, words "__closure__ __defaults__ __kwdefaults__"), (.instance "code", ["__code__"]),
    (.text, words "__module__ __name__ __qualname__")]

/-- The names of functions and operators that come with a kind, apart from any thing. -/
def ofLoose : Names :=
  [(.operator, words "__call__ __get__"), (.type, ["__objclass__"]),
    (.text, words "__name__ __qualname__ __text_signature__")]

/-- The names of types. Their objects' methods and operators are among them, apart from any object. -/
def ofType : Names :=
  [(.table, ["__annotations__"]), (.instance "mappingproxy", ["__dict__"]), (.type, ["__base__"]),
    (.tuple, words "__bases__ __mro__"),
    (.number, words "__basicsize__ __dictoffset__ __flags__ __itemsize__ __weakrefoffset__"),
    (.operator, words "__call__ __or__ __ror__"),
    (.routine, words ("__init_subclass__ __instancecheck__ __new__ __prepare__ __subclasscheck__ __subclasses__ " ++
      "__subclasshook__ mro")),
    (.looseRoutine, words "__dir__ __format__ __getstate__ __reduce__ __reduce_ex__ __sizeof__"),
    (.looseOperator, Attribute.sharedOperators), (.nothing, ["__text_signature__"]),
    (.text, words "__module__ __name__ __qualname__"), (.instance "getset_descriptor", ["__weakref__"])]

/-- The operators of sets that give a new one. -/
def setOperators : List String :=
  words "__and__ __iter__ __len__ __or__ __rand__ __ror__ __rsub__ __rxor__ __sub__ __xor__"

/-- The methods of sets that change none. -/
def setRoutines : List String :=
  words ("__class_getitem__ __contains__ copy difference intersection isdisjoint issubset issuperset " ++
    "symmetric_difference union")

/-- The names of what reads or writes an attribute of a type's objects. -/
def ofDescriptor : Names :=
  [(.operator, words "__delete__ __get__ __set__"), (.type, ["__objclass__"]), (.nothing, ["__doc__"]),
    (.text, words "__name__ __qualname__")]

/-- The names of objects of types that no module is asked about. -/
def ofInstance : List (String × Names) :=
  [("mappingproxy",
      [(.routine, words "__class_getitem__ __reversed__ copy get items keys values"),
        (.operator, words "__contains__ __getitem__ __ior__ __iter__ __len__ __or__ __ror__"),
        (.nothing, ["__hash__"])]),
    ("code",
      [(.routine, words "_varname_from_oparg co_lines co_positions replace"),
        (.text, words "co_filename co_name co_qualname"),
        (.instance "bytes", words "_co_code_adaptive co_code co_exceptiontable co_linetable co_lnotab"),
        (.number, words ("co_argcount co_firstlineno co_flags co_kwonlyargcount co_nlocals co_posonlyargcount " ++
          "co_stacksize")),
        (.tuple, words "co_cellvars co_consts co_freevars co_names co_varnames")]),
    ("ContextVar", []), ("date", []), ("datetime", []), ("timedelta", []), ("timezone", []),
    ("SimpleNamespace", [(.table, ["__dict__"]), (.nothing, ["__hash__"])]),
    ("frozenset", [(.routine, setRoutines), (.operator, setOperators)]),
    ("set",
      [(.routine, setRoutines ++ words ("add clear difference_update discard intersection_update pop remove " ++
          "symmetric_difference_update update")),
        (.operator, setOperators ++ words "__iand__ __ior__ __isub__ __ixor__"), (.nothing, ["__hash__"])]),
    ("bytes", ofPlain "bytes"), ("bool", (.number, words "denominator imag numerator real") :: ofPlain "bool"),
    ("float", (.instance "float", words "imag real") :: ofPlain "float"),
    ("member_descriptor", ofDescriptor), ("getset_descriptor", ofDescriptor), ("_abc_data", [(.text, ["__module__"])]),
    ("SchemaValidator",
      [(.routine, words ("__reduce__ get_default_value isinstance_python validate_assignment validate_json " ++
          "validate_python validate_strings")), (.text, ["title"]), (.text, ["__module__"])]),
    ("SchemaSerializer", [(.routine, words "__reduce__ to_json to_python"), (.text, ["__module__"])])]

/-- The names that things have by their kind, the shared ones apart. -/
def own : Kind → Names
  | .function => ofFunction
  | .method => (.instance "object", ["__self__"]) :: ofFunction
  | .routine =>
    [(.operator, ["__call__"]), (.nothing, ["__module__"]), (.instance "object", ["__self__"]),
      (.text, words "__name__ __qualname__ __text_signature__")]
  | .operator =>
    [(.operator, ["__call__"]), (.type, ["__objclass__"]), (.instance "object", ["__self__"]),
      (.text, words "__name__ __qualname__ __text_signature__")]
  | .looseRoutine | .looseOperator => ofLoose
  | .type => ofType
  | .choices =>
    (.instance "mappingproxy", ["__members__"]) :: ofType
  | .choice _ =>
    (.text, words "name value _name_ _value_ __module__") :: (.number, ["_sort_order_"]) :: (.table, ["__dict__"]) ::
      ofPlain "str"
  | .text => ofPlain "str"
  | .number => (.number, words "denominator imag numerator real") :: ofPlain "int"
  | .nothing => (.nothing, ["__doc__"]) :: ofPlain "NoneType"
  | .table => (.nothing, ["__hash__"]) :: ofPlain "dict"
  | .list => (.nothing, ["__hash__"]) :: ofPlain "list"
  | .tuple => ofPlain "tuple"
  | .module =>
    [(.table, words "__annotations__ __builtins__ __dict__"),
      (.text, words "__name__ __file__ __cached__ __package__"), (.instance "SourceFileLoader", ["__loader__"]),
      (.instance "ModuleSpec", ["__spec__"])]
  | .property =>
    [(.routine, words "__set_name__ deleter getter setter"), (.operator, words "__delete__ __get__ __set__"),
      (.nothing, words "fdel fset"), (.number, ["__isabstractmethod__"])]
  | .instance owner => (ofInstance.lookup owner).getD
      [(.table, ["__dict__"]), (.text, ["__module__"]), (.nothing, ["__weakref__"])]

/-- What kind of thing a name of a thing stands for, if the kind alone gives the name. -/
def attribute? (k : Kind) (name : String) : Option Kind := (k.own.find? name).orElse fun _ => shared.find? name

theorem attribute?_shared (k : Kind) {name : String} (h : (shared.find? name).isSome) :
    (k.attribute? name).isSome := by
  unfold attribute?
  cases hk : Names.find? k.own name <;> simp [h]

end Kind

end ActivityLog
