import ActivityLog.Value.Display
import ActivityLog.Value.Documentation

/-!
# Attributes of values

Every value has attributes that come with its type: texts and lists have methods, numbers have parts. `routines` and
`operators` name the methods of a type and say how many arguments they take, `Value.attribute?` finds an attribute of a
value. Main statement: the attributes that an object was given come first (`attribute?_of_attr?`).
-/

namespace ActivityLog

namespace Attribute

/-- Words of a text. Proofs leave it folded. -/
@[irreducible]
def words (s : String) : List String := ((s.toList.splitOn ' ').filter fun w => !w.isEmpty).map String.ofList

/-- How many arguments a routine takes, as its refusal of others tells. -/
inductive Limit where
  | none
  | one
  /-- At most so many, the count named first. -/
  | most (n : Nat)
  /-- At most so many, the count named last. -/
  | upTo (n : Nat)
  /-- At most so many by place. -/
  | byPlace (n : Nat)
  | just (n : Nat)
  /-- Just so many, the count named last. -/
  | exactly (n : Nat)
  /-- Just so many by place. -/
  | exactlyByPlace (n : Nat)
  /-- A place to start from and one to stop at come last. -/
  | bounds
  /-- The same, and both must be there. -/
  | fixedBounds
  /-- It fails otherwise. -/
  | other (text : String)

/-- A number of arguments in words. -/
def arguments (n : Nat) : String := toString n ++ " argument" ++ (if n = 1 then "" else "s")

/-- A number of arguments by place in words. -/
def argumentsByPlace (n : Nat) : String := toString n ++ " positional argument" ++ (if n = 1 then "" else "s")

/-- The refusal of so many arguments by a routine of a type or a module. One that belongs to a module itself goes by
its name alone. -/
def Limit.refusal (l : Limit) (given : Nat) (owner name : String) : String :=
  let qualified := if owner.isEmpty then name else owner ++ "." ++ name
  let given := toString given
  match l with
  | .none => qualified ++ "() takes no arguments (" ++ given ++ " given)"
  | .one => qualified ++ "() takes exactly one argument (" ++ given ++ " given)"
  | .most n => name ++ " expected at most " ++ arguments n ++ ", got " ++ given
  | .upTo n => name ++ "() takes at most " ++ arguments n ++ " (" ++ given ++ " given)"
  | .byPlace n => name ++ "() takes at most " ++ argumentsByPlace n ++ " (" ++ given ++ " given)"
  | .just n => name ++ " expected " ++ arguments n ++ ", got " ++ given
  | .exactly n => name ++ "() takes exactly " ++ arguments n ++ " (" ++ given ++ " given)"
  | .exactlyByPlace n => name ++ "() takes exactly " ++ argumentsByPlace n ++ " (" ++ given ++ " given)"
  | .bounds => "slice indices must be integers or None or have an __index__ method"
  | .fixedBounds => "slice indices must be integers or have an __index__ method"
  | .other text => text

/-- Routines with what they take. -/
abbrev Routines := List (Limit × List String)

/-- The methods that values of every type have. -/
def sharedRoutines : Routines :=
  [(.none, words "__dir__ __getstate__ __init_subclass__ __reduce__ __sizeof__"),
    (.one, words "__format__ __reduce_ex__"), (.other "", words "__new__ __subclasshook__")]

/-- The methods of texts and of bytes. -/
def textRoutines : Routines :=
  [(.none, words ("__getnewargs__ capitalize isalnum isalpha isascii isdigit islower isspace istitle isupper lower " ++
      "swapcase title upper")),
    (.one, words "join partition removeprefix removesuffix rpartition zfill"), (.most 2, words "center ljust rjust"),
    (.bounds, words "count endswith find index rfind rindex startswith"), (.upTo 2, words "rsplit split"),
    (.upTo 1, words "expandtabs splitlines"), (.most 1, words "lstrip rstrip strip")]

/-- The methods of whole numbers. -/
def wholeRoutines : Routines :=
  [(.none, words ("__ceil__ __floor__ __getnewargs__ __trunc__ as_integer_ratio bit_count bit_length conjugate")),
    (.most 1, ["__round__"]), (.byPlace 2, words "from_bytes to_bytes")]

/-- The methods of sets that take a certain number of arguments. -/
def setRoutines : Routines :=
  [(.none, ["copy"]),
    (.one, words "__class_getitem__ __contains__ isdisjoint issubset issuperset symmetric_difference")]

/-- The methods that come with a type. -/
def ownRoutines : List (String × Routines) :=
  [("str", textRoutines ++ [(.none, words "casefold isdecimal isidentifier isnumeric isprintable"),
      (.one, words "format_map translate"), (.upTo 2, ["encode"]), (.other "", words "format maketrans replace")]),
    ("bytes", textRoutines ++ [(.none, ["__bytes__"]), (.one, ["fromhex"]), (.upTo 2, words "decode hex translate"),
      (.just 2, ["maketrans"]), (.other "", ["replace"])]),
    ("int", wholeRoutines), ("bool", wholeRoutines),
    ("float", [(.none, words "__ceil__ __floor__ __getnewargs__ __trunc__ as_integer_ratio conjugate hex is_integer"),
      (.one, words "__getformat__ fromhex"), (.most 1, ["__round__"])]),
    ("list", [(.none, words "__reversed__ clear copy reverse"),
      (.one, words "__class_getitem__ __getitem__ append count extend remove"), (.just 2, ["insert"]),
      (.most 1, ["pop"]), (.upTo 2, ["sort"]), (.fixedBounds, ["index"])]),
    ("dict", [(.none, words "__reversed__ clear copy items keys popitem values"),
      (.one, words "__class_getitem__ __contains__ __getitem__"), (.most 2, words "fromkeys get pop setdefault"),
      (.most 1, ["update"])]),
    ("tuple", [(.none, ["__getnewargs__"]), (.one, words "__class_getitem__ count"), (.fixedBounds, ["index"])]),
    ("mappingproxy", [(.none, words "__reversed__ copy items keys values"), (.one, ["__class_getitem__"]),
      (.most 2, ["get"])]),
    ("property", [(.one, words "deleter getter setter"),
      (.other "__set_name__() takes 2 positional arguments but 3 were given", ["__set_name__"])]),
    ("set", setRoutines ++ [(.none, words "clear pop"),
      (.one, words "add discard remove symmetric_difference_update")]),
    ("frozenset", setRoutines),
    ("code", [(.none, words "co_lines co_positions"), (.upTo 1, ["_varname_from_oparg"]),
      (.other "replace() takes no positional arguments", ["replace"])])]

/-- The operators that values of every type have. -/
def sharedOperators : List String :=
  words ("__delattr__ __eq__ __ge__ __getattribute__ __gt__ __hash__ __init__ __le__ __lt__ __ne__ __repr__ " ++
    "__setattr__ __str__")

/-- The operators of texts, bytes and tuples. -/
def rowOperators : List String := words "__add__ __contains__ __getitem__ __iter__ __len__ __mul__ __rmul__"

/-- The operators of all numbers. -/
def numberOperators : List String :=
  words ("__abs__ __add__ __bool__ __divmod__ __float__ __floordiv__ __int__ __mod__ __mul__ __neg__ __pos__ " ++
    "__pow__ __radd__ __rdivmod__ __rfloordiv__ __rmod__ __rmul__ __rpow__ __rsub__ __rtruediv__ __sub__ __truediv__")

/-- The operators of whole numbers. -/
def wholeOperators : List String :=
  numberOperators ++ words ("__and__ __index__ __invert__ __lshift__ __or__ __rand__ __rlshift__ __ror__ " ++
    "__rrshift__ __rshift__ __rxor__ __xor__")

/-- The operators that come with a type. -/
def ownOperators : List (String × List String) :=
  [("str", rowOperators ++ words "__mod__ __rmod__"), ("bytes", rowOperators ++ words "__mod__ __rmod__"),
    ("int", wholeOperators), ("bool", wholeOperators), ("float", numberOperators),
    ("list", words ("__add__ __contains__ __delitem__ __iadd__ __imul__ __iter__ __len__ __mul__ __rmul__ " ++
      "__setitem__")),
    ("dict", words "__delitem__ __ior__ __iter__ __len__ __or__ __ror__ __setitem__"), ("tuple", rowOperators),
    ("NoneType", ["__bool__"])]

/-- The methods of a type, with what they take. -/
def limits (type : String) : Routines := ((ownRoutines.lookup type).getD []) ++ sharedRoutines

/-- The methods of a type. -/
def routines (type : String) : List String := (limits type).flatMap Prod.snd

/-- The operators of a type. -/
def operators (type : String) : List String := ((ownOperators.lookup type).getD []) ++ sharedOperators

/-- A fault of the arguments. -/
def typeFault (text : String) : Answer := .fails "TypeError" text

/-- The answer of something that cannot be called with a request, a response and a record. -/
def unsuited (name : String) : Answer := typeFault (name ++ "() takes no request, response and record")

/-- The type of bags of attributes. -/
def bagType : String := "SimpleNamespace"

/-- The answer to a call of a type's `__new__`. -/
def noType (type : String) : Answer :=
  let type := if type = bagType then "types." ++ type else type
  .rejects .request "TypeError" (type ++ ".__new__(X): X is not a type object (") ")"

/-- The answer of a function that needs a whole number, but gets another argument. -/
def noWhole (argument : Argument) : Answer :=
  .rejects argument "TypeError" "'" "' object cannot be interpreted as an integer"

/-- How a method of a type answers that looks at its arguments one after the other. -/
def byArguments? (type name : String) : Option Answer :=
  let text (argument : Argument) (place : String) (next : Answer) : Answer :=
    .needs argument .text (.rejects argument "TypeError"
      (name ++ "() argument " ++ place ++ " must be str, not ") "" .byWord) next
  let bytes (argument : Argument) (next : Answer) : Answer :=
    .needs argument .bytes (.rejects argument "TypeError" "a bytes-like object is required, not '" "'") next
  if type = "str" && name = "replace" then some (text .request "1" (text .response "2" (noWhole .record)))
  else if type = "str" && name = "maketrans" then
    some (text .response "2" (typeFault "maketrans() argument 3 must be str, not dict"))
  else if type = "bytes" && name = "replace" then some (bytes .request (bytes .response (noWhole .record)))
  else if ["set", "frozenset"].contains type && ["difference", "intersection", "union"].contains name then
    some (.performs (.gather (some type)))
  else if ["difference_update", "intersection_update", "update"].contains name && type = "set" then
    some (.performs (.gather none))
  else none

/-- How a method of a type answers, the type being known by another name, too. -/
def routineAnswer (type shownType name : String) : Answer :=
  if let some answer := byArguments? type name then answer
  else if name = "__subclasshook__" then .makes "NotImplementedType"
  else if name = "__new__" then noType shownType
  else if name = "__prepare__" then .emptyTable
  else if name = "__class_getitem__" then typeFault (Limit.one.refusal 3 shownType name)
  else match (limits type).find? fun l => l.2.contains name with
    | some (limit, _) => typeFault (limit.refusal 3 shownType name)
    | none => unsuited (shownType ++ "." ++ name)

/-- How a type answers that is called. -/
def classAnswer (type : String) : Answer :=
  let text (argument : Argument) (before : String) (next : Answer) : Answer :=
    .needs argument .text (.rejects argument "TypeError" before "" .byWord) next
  if ["list", "dict", "tuple", "float", "bool", "set", "frozenset"].contains type then
    typeFault (type ++ " expected at most 1 argument, got 3")
  else match type with
    | "object" => typeFault "object() takes no arguments"
    | "NoneType" => typeFault "NoneType takes no arguments"
    | "int" | "module" => typeFault (type ++ "() takes at most 2 arguments (3 given)")
    | "str" => text .response "str() argument 'encoding' must be str, not "
        (typeFault "str() argument 'errors' must be str, not dict")
    | "bytes" => text .response "bytes() argument 'encoding' must be str, not "
        (typeFault "bytes() argument 'errors' must be str, not dict")
    | "type" => text .request "type.__new__() argument 1 must be str, not "
        (.rejects .response "TypeError" "type.__new__() argument 2 must be tuple, not " "" .byWord)
    | "function" => .rejects .request "TypeError" "function() argument 'code' must be code, not " "" .byWord
    | "method" => typeFault "method expected 2 arguments, got 3"
    | "mappingproxy" => typeFault "mappingproxy() takes at most 1 argument (3 given)"
    | "SimpleNamespace" => typeFault "no positional arguments expected"
    | "property" => .makes "property"
    | "code" => typeFault "code expected at least 16 arguments, got 3"
    | "builtin_function_or_method" | "method-wrapper" | "method_descriptor" | "wrapper_descriptor"
    | "getset_descriptor" | "member_descriptor" | "classmethod_descriptor" =>
      typeFault ("cannot create '" ++ type ++ "' instances")
    | type => unsuited type

/-- Operators that take nothing, apart from what they belong to. -/
def lone : List String :=
  words ("__abs__ __bool__ __float__ __hash__ __index__ __int__ __invert__ __iter__ __len__ __neg__ __pos__ " ++
    "__repr__ __str__")

/-- How an operator of a type answers when it is called with `given` arguments beside what it belongs to. -/
def operatorAnswer (type name : String) (given : Nat) : Answer :=
  let got := ", got " ++ toString given
  let ofRow := ["str", "bytes", "list", "tuple"].contains type
  if name = "__init__" then
    if ["dict", "list"].contains type then typeFault (type ++ " expected at most 1 argument" ++ got)
    else if type = "module" then typeFault ("module() takes at most 2 arguments (" ++ toString given ++ " given)")
    else if type = bagType then typeFault "no positional arguments expected"
    else .nothing
  else if lone.contains name then typeFault ("expected 0 arguments" ++ got)
  else if ["__setattr__", "__setitem__", "__set__"].contains name then typeFault (" expected 2 arguments" ++ got)
  else if ["__pow__", "__rpow__", "__get__"].contains name then typeFault (" expected at most 2 arguments" ++ got)
  else if ofRow && ["__mul__", "__rmul__", "__imul__"].contains name then typeFault (" expected 1 argument" ++ got)
  else typeFault ("expected 1 argument" ++ got)

/-- How a method of texts answers apart from any of them that looks at its arguments one after the other. -/
def looseByArguments? (name : String) : Option Answer :=
  let text (place : String) (next : Answer) : Answer :=
    .needs .response .text (.rejects .response "TypeError" (name ++ "() argument " ++ place ++ " must be str, not ") ""
      .byWord) next
  if ["center", "ljust", "rjust"].contains name then
    some (.needs .response .whole (noWhole .response)
      (typeFault "The fill character must be a unicode character, not dict"))
  else if ["split", "rsplit"].contains name then some (noWhole .record)
  else match name with
    | "encode" => some (text "'encoding'" (typeFault "encode() argument 'errors' must be str, not dict"))
    | "replace" => some (text "1" (typeFault "replace() argument 2 must be str, not dict"))
    | "format" => some (.gives .request)
    | _ => none

/-- How a method of a type answers apart from any object, given one of the type with two arguments. -/
def looseRoutineAnswer (type name : String) : Answer :=
  if let some answer := (if type = "str" then looseByArguments? name else none) then answer
  else match type, name with
  | "list", "sort" => typeFault "sort() takes no positional arguments"
  | "list", "insert" => .needs .response .whole (noWhole .response) .nothing
  | "int", "to_bytes" =>
    .needs .response .whole (noWhole .response) (typeFault "to_bytes() argument 'byteorder' must be str, not dict")
  | "dict", "get" => .performs .lookUp
  | "dict", "pop" => .performs (.takeOut true)
  | "dict", "setdefault" => .performs .setDefault
  | _, _ =>
    match (limits type).find? fun l => l.2.contains name with
    | some (limit, _) => typeFault (limit.refusal 2 type name)
    | none => unsuited (type ++ "." ++ name)

/-- How an operator of a type answers apart from any object, given one of the type with two arguments. -/
def looseOperatorAnswer (type name : String) : Answer :=
  if ["dict", "list"].contains type && name = "__setitem__" then .performs .storeValue
  else if ["__pow__", "__rpow__"].contains name then
    if type = "float" then typeFault "pow() 3rd argument not allowed unless all arguments are integers"
    else .makes "NotImplementedType"
  else operatorAnswer type name 2

/-- The method of a type. -/
def routine (type name : String) : Value :=
  .function (.named ⟨"None", type ++ "." ++ name⟩ (.foreign (routineAnswer type type name)))

/-- The type of the objects that stand for operators. -/
def operatorType : String := "method-wrapper"

/-- The types of callable things that belong to no module. -/
def namelessTypes : List String :=
  [operatorType, "method_descriptor", "wrapper_descriptor", "classmethod_descriptor"]

/-- The type of a value as a value. -/
def classOf (type : String) : Value := .function (.named ⟨"builtins", type⟩ (.foreign (classAnswer type)))

/-- The parts of a whole number. -/
def wholePart? (n : Int) (name : String) : Option Value :=
  if name = "real" || name = "numerator" then some (.int n)
  else if name = "imag" then some (.int 0)
  else if name = "denominator" then some (.int 1)
  else none

/-- The parts of a number; truth values count as 0 and 1. -/
def part? : Value → String → Option Value
  | .bool b, name => wholePart? (if b then 1 else 0) name
  | .int n, name => wholePart? n name
  | .float x, name =>
    if name = "real" then some (.float x)
    else if name = "imag" then some (.float (Binary64.ofInt 0))
    else none
  | _, _ => none

/-- An operator of a type. -/
def operator (type name : String) : Value :=
  .function (.ofType operatorType (.foreign (operatorAnswer type name 3)))

/-- What comes with a type of plain data under a name. -/
def ofType? (type name : String) : Option Value :=
  if (type = "list" || type = "dict") && name = "__hash__" then some .null
  else if (routines type).contains name then some (routine type name)
  else if (operators type).contains name then some (operator type name)
  else if name = "__class__" then some (classOf type)
  else if name = "__doc__" then (Documentation.ofType? type).map .text
  else none

/-- A type that a module defines. -/
structure DefinedType where
  module : String
  name : String
  /-- What it says of itself. -/
  documentation : Option String := none

/-- What all objects of a type that a module defines have under a name. -/
def DefinedType.common? (t : DefinedType) (name : String) : Option Value :=
  if name = "__new__" then some (routine "object" name)
  else if (routines "").contains name then some (routine t.name name)
  else if (operators "").contains name then some (operator "" name)
  else if name = "__class__" then some (.function (.named ⟨t.module, t.name⟩ (.foreign (unsuited t.name))))
  else if name = "__module__" then some (.text t.module)
  else if name = "__doc__" then t.documentation.map .text
  else none

/-- What comes with an object that is nothing but an object. -/
def ofAnything? (name : String) : Option Value :=
  if name = "__module__" then none
  else (DefinedType.mk "builtins" "object" (Documentation.ofType? "object")).common? name

/-- What comes with a bag of attributes under a name. -/
def ofBag? (attributes : List (String × Value)) (name : String) : Option Value :=
  if name = "__dict__" then some (.dict attributes)
  else if name = "__hash__" || name = "__module__" then none
  else if name = "__new__" then some (routine bagType name)
  else (DefinedType.mk "types" bagType (Documentation.ofType? bagType)).common? name

end Attribute

namespace Value

/-- Whether the value is plain data, with the attributes of its type and no others. -/
def isPlainData : Value → Bool
  | .null | .bool _ | .int _ | .float _ | .text _ | .bytes _ | .list _ | .dict _ => true
  | .tuple typeName _ => typeName == "tuple"
  | _ => false

/-- An attribute of a value: one that it was given, a part of a number, or one that comes with its type. -/
def attribute? (v : Value) (name : String) : Option Value :=
  match v.attr? name with
  | some a => some a
  | none =>
    match Attribute.part? v name with
    | some a => some a
    | none =>
      match v with
      | .object .plain attributes => Attribute.ofBag? attributes name
      | v => if v.isPlainData then Attribute.ofType? v.typeName name else none

mutual

/-- The type of the first thing in a value that can be called and belongs to no module. -/
def nameless? : Value → Option String
  | .function (.ofType type _) => if Attribute.namelessTypes.contains type then some type else none
  | .list items => namelessItem? items
  | .dict entries => namelessEntry? entries
  | .tuple _ fields => namelessEntry? fields
  | .object .plain attributes => namelessEntry? attributes
  | _ => none

/-- The type of the first such thing in some values. -/
def namelessItem? : List Value → Option String
  | [] => none
  | v :: rest => (nameless? v).orElse fun _ => namelessItem? rest

/-- The type of the first such thing in some named values. -/
def namelessEntry? : List (String × Value) → Option String
  | [] => none
  | (_, v) :: rest => (nameless? v).orElse fun _ => namelessEntry? rest

end

theorem attribute?_of_attr? {v : Value} {name : String} {a : Value} (h : v.attr? name = some a) :
    v.attribute? name = some a := by
  simp [attribute?, h]

end Value

end ActivityLog
