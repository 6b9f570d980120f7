import ActivityLog.Descriptor.Kind
import ActivityLog.Failure

/-!
# References to functions

A text `module:name.name` refers to a function in a catalogue of modules. `resolve` follows it. Some names stand for
parts of the running application; looking at these is a step in a monad of the caller's choice (`Scope`), since it may
make them. Main statements: `resolve_function` (functions stay as they are) and `resolve_null`.
-/

namespace ActivityLog

/-- A part of the running application that a name may stand for. It may not be there yet. -/
inductive Live where
  /-- The shared logging configuration. -/
  | configuration
  /-- Its pattern. -/
  | pattern
  /-- The settings that have been read. -/
  | settings
  /-- The core of the application's own entry point, which is made by looking at it. -/
  | core
  /-- The same, if it has been made. -/
  | madeCore
  /-- The pipeline of the entry point, which is made by looking at it. -/
  | pipeline
  /-- The same, if it has been made. -/
  | madePipeline
  /-- The fields that the entry point has been given. -/
  | fields
  deriving DecidableEq, Repr

/-- What a name stands for: a kind of thing, and the names it has of its own, beside those of its kind. -/
inductive Member where
  /-- Something that can be called. -/
  | function (f : FieldFunction) (kind : Kind) (own : List (String × Member))
  /-- Anything else. -/
  | data (kind : Kind) (own : List (String × Member))
  /-- A part of the running application, in the forms that it may have. -/
  | live (part : Live) (forms : List Member)

namespace Member

/-- The kind of thing. -/
def kind : Member → Kind
  | .function _ kind _ => kind
  | .data kind _ => kind
  | .live _ _ => .nothing

/-- The names that a thing has of its own. -/
def own : Member → List (String × Member)
  | .function _ _ own => own
  | .data _ own => own
  | .live _ _ => []

/-- The thing with further names of its own, which come first. -/
def withNames (m : Member) (further : List (String × Member)) : Member :=
  match m with
  | .function f kind own => .function f kind (further ++ own)
  | .data kind own => .data kind (further ++ own)
  | .live part forms => .live part forms

/-- An object that can be called: that calls its `__call__`. -/
def calling : Member → Member
  | .data kind own => match own.lookup "__call__" with
    | some (.function f _ _) => .function (.ofType kind.typeName f.body) kind own
    | _ => .data kind own
  | thing => thing

/-- A function that does something. -/
def performing (op : Operation) : Member → Member
  | .function (.named n _) kind own => .function (.named n (.foreign (.performs op))) kind own
  | thing => thing

/-- The type that has the `__new__` of objects of a type. -/
def maker (type : String) : String :=
  let withOwnNew := ["function", "method", "str", "int", "NoneType", "dict", "list", "tuple", "property",
    "module", "mappingproxy", "code", "frozenset", "set", "bytes", "float", "bool", "_abc_data", "SchemaValidator",
    "SchemaSerializer", "type", Attribute.bagType]
  if withOwnNew.contains type then type else "object"

/-- The type that has the `__new__` that is found under a name of a thing. Basic types may have their own one. -/
def makerOf : Member → String
  | .function (.named ⟨"builtins", type⟩ _) .type _ => maker type
  | m => if m.kind = .type ∨ m.kind = .choices then "object" else maker m.kind.typeName

/-- What a `format` does that belongs to a text of a type in which nothing is to be put. -/
def formatting (type value : String) : String × Member :=
  ("format", .function (.named ⟨"None", type ++ ".format"⟩ (.foreign (.givesText value))) .routine [])

/-- A text that is known. -/
def knownText (value : String) : Member := .data .text [formatting "str" value]

/-- A text that things of a kind have and that is known: the name of a function, or what a type says of itself. -/
def textOf? (m : Member) (name : String) : Option String :=
  match m, name with
  | .function (.named n _) _ _, "__module__" => some n.module
  | .function (.named n _) _ _, "__qualname__" => some n.name
  | .function (.named n _) _ _, "__name__" => (n.name.splitOn ".").getLast?
  | .data kind _, "__doc__" => Documentation.ofType? kind.typeName
  | _, _ => none

/-- The name of a function that comes with a kind, under a name of a thing. A type gives its own name to those of its
functions that belong to it, `__new__` and a table of translations belong to where they are defined. -/
def routineName (m : Member) (name : String) : String :=
  let k := m.kind
  let owner := match m with
    | .function (.named n _) .type _ => n.name
    | .function (.named n _) .choices _ => n.name
    | _ => k.typeName
  if name = "__new__" then m.makerOf ++ ".__new__"
  else if name = "__prepare__" then "type.__prepare__"
  else if name = "maketrans" && k != .instance "bytes" then "str.maketrans"
  else if k = .module && !(["__init_subclass__", "__subclasshook__"].contains name) then name
  else owner ++ "." ++ name

/-- How a function that comes with a kind answers, under a name of a thing. -/
def routineAnswer (m : Member) (name : String) : Answer :=
  match m.kind with
  | .type | .choices =>
    let qualified := m.routineName name
    if ["__init_subclass__", "__subclasses__", "mro"].contains name then
      Attribute.typeFault (qualified ++ "() takes no arguments (3 given)")
    else if ["__instancecheck__", "__subclasscheck__"].contains name then
      Attribute.typeFault (qualified ++ "() takes exactly one argument (3 given)")
    else if name = "__new__" then Attribute.noType m.makerOf
    else if name = "__prepare__" then .emptyTable
    else Attribute.routineAnswer "" "type" name
  | k =>
    if name = "__new__" then Attribute.noType m.makerOf
    else if k = .module && name != "__init_subclass__" then Attribute.routineAnswer k.plainType "" name
    else Attribute.routineAnswer k.plainType k.typeName name

/-- The answer of a function or an operator of all things, apart from any of them. -/
def looseAnswer (name : String) : Answer :=
  if ["__dir__", "__getstate__", "__reduce__", "__sizeof__"].contains name then
    Attribute.typeFault ("object." ++ name ++ "() takes no arguments (2 given)")
  else if ["__format__", "__reduce_ex__"].contains name then
    Attribute.typeFault ("object." ++ name ++ "() takes exactly one argument (2 given)")
  else if name = "__setattr__" then .performs .setAttribute
  else if name = "__init__" then
    .needs .request .complete
      (Attribute.typeFault "object.__init__() takes exactly one argument (the instance to initialize)") .nothing
  else Attribute.operatorAnswer "" name 2

/-- Whether the thing is the type of all things. -/
def isAnyType : Member → Bool
  | .function (.named n _) .type _ => n.module == "builtins" && n.name == "object"
  | _ => false

/-- What a name stands for that things of a kind have. -/
def ofKind (m : Member) (name : String) (kind : Kind) : Member :=
  let unsuited (qualified : String) : FunctionBody Value := .foreign (Attribute.unsuited qualified)
  match kind with
  | .text => (m.textOf? name).elim (.data .text []) knownText
  | .routine =>
    .function (.named ⟨"None", m.routineName name⟩ (.foreign (m.routineAnswer name))) kind []
  | .operator =>
    let body := match m, name with
      | .function f _ _, "__call__" => f.body
      | _, _ => .foreign (Attribute.operatorAnswer m.kind.plainType name 3)
    .function (.ofType kind.typeName body) kind []
  | .looseRoutine | .looseOperator => .function (.ofType kind.typeName (.foreign (looseAnswer name))) kind []
  | .type =>
    if name = "__base__" && m.isAnyType then .data .nothing [] else
    let type := if name = "__class__" then m.kind.typeName else "object"
    .function (.named ⟨"builtins", type⟩ (.foreign (Attribute.classAnswer type))) kind []
  | .function | .method | .choices =>
    let qualified := m.kind.typeName ++ "." ++ name
    .function (.named ⟨"None", qualified⟩ (unsuited qualified)) kind []
  | kind => .data kind []

/-- Whether the thing is a type whose objects are types. -/
def makesTypes : Member → Bool
  | .function (.named n _) .type _ =>
    n.name == "type" || n.name == "ABCMeta" || n.name == "EnumType" || n.name == "_AnyMeta"
  | _ => false

/-- What a name stands for that all types of types have: apart from any type, it refuses what is none. -/
def ofTypeOfTypes? (name : String) : Option Member :=
  let loose (kind : Kind) (before after : String) : Member :=
    .function (.ofType kind.typeName (.foreign (.rejects .request "TypeError" before after))) kind []
  if (Kind.words "__dir__ __instancecheck__ __sizeof__ __subclasscheck__ __subclasses__ mro").contains name then
    some (loose .looseRoutine ("descriptor '" ++ name ++ "' for 'type' objects doesn't apply to a '") "' object")
  else if (Kind.words "__call__ __delattr__ __getattribute__ __init__ __or__ __repr__ __ror__ __setattr__").contains
      name then
    some (loose .looseOperator ("descriptor '" ++ name ++ "' requires a 'type' object but received a '") "'")
  else none

/-- What a name of a thing stands for: its own names first, then those of its kind. -/
def find? (m : Member) (name : String) : Option Member :=
  (m.own.lookup name).orElse fun _ =>
    (if m.makesTypes then ofTypeOfTypes? name else none).orElse fun _ =>
      match m, name with
      | .function f .method _, "__func__" => some (.function f .function [])
      | m, name => (m.kind.attribute? name).map (m.ofKind name)

/-- A type that comes with the library. -/
def basicType (type : String) : Member :=
  let module := if type = Attribute.bagType then "types" else "builtins"
  .function (.named ⟨module, type⟩ (.foreign (Attribute.classAnswer type))) .type []

/-- What a function that is found under a name of a thing belongs to: the thing, its type, or the type that makes such
things. -/
def owner (thing : Member) (name : String) : Member :=
  let isType := thing.kind = .type ∨ thing.kind = .choices
  if name = "__new__" then basicType thing.makerOf
  else if !isType && ["__init_subclass__", "__subclasshook__"].contains name then
    (thing.find? "__class__").getD (basicType "object")
  else thing

/-- Whether functions of the kind belong to something. -/
def isOwned (m : Member) : Bool := m.kind = .routine ∨ m.kind = .operator ∨ m.kind = .method

/-- A function that belongs to a thing, wherever it is found. -/
def within (m thing : Member) : Member :=
  match m with
  | .function _ _ _ => m.withNames [("__self__", thing)]
  | m => m

/-- A function with no names of its own. -/
def ofFunction (f : FieldFunction) : Member := .function f .function []

theorem find?_own {m : Member} {name : String} {inner : Member} (h : m.own.lookup name = some inner) :
    m.find? name = some inner := by
  simp [find?, h]

end Member

/-- Modules and their names. -/
abbrev Catalogue := List (String × List (String × Member))

namespace Reference

/-- A text split at the first colon; without a colon there is no second part. -/
def splitColon : List Char → List Char × Option (List Char)
  | [] => ([], none)
  | ':' :: rest => ([], some rest)
  | c :: rest => let (before, after) := splitColon rest; (c :: before, after)

/-- A text split at every point. -/
def splitPoints : List Char → List (List Char)
  | [] => [[]]
  | '.' :: rest => [] :: splitPoints rest
  | c :: rest =>
    match splitPoints rest with
    | part :: parts => (c :: part) :: parts
    | [] => [[c]]

/-- The type of a thing, from the module that defines it. -/
def typeOf? (catalogue : Catalogue) (thing : Member) : Option Member :=
  let type := thing.kind.typeName
  catalogue.findSome? fun (module, members) =>
    match members.lookup type with
    | some (.function (.named n body) kind own) =>
      if n = ⟨module, type⟩ then some (.function (.named n body) kind own) else none
    | _ => none

/-- A type with its names from the module that defines it, if none are known. -/
def described (catalogue : Catalogue) : Member → Member
  | .function (.named n body) .type [] =>
    match (catalogue.lookup n.module).bind fun members => members.lookup n.name with
    | some (.function (.named found described) .type own) =>
      if found = n then .function (.named n described) .type own else .function (.named n body) .type []
    | _ => .function (.named n body) .type []
  | thing => thing

/-- The type that defines an operator that is found under a name of a thing; those of types are their own type's. -/
def definer? (catalogue : Catalogue) (thing : Member) (name : String) : Option Member :=
  if thing.kind = .type then
    some (.function (.named ⟨"builtins", "type"⟩ (.foreign (Attribute.classAnswer "type"))) .type [])
  else (typeOf? catalogue thing).bind fun type => (type.own.lookup name).bind fun m => m.own.lookup "__objclass__"

/-- Where references are looked up: in a catalogue, and in the running application. -/
structure Scope (m : Type → Type) where
  catalogue : Catalogue
  /-- The name of the type of a part of the application at this moment. -/
  look : Live → m String

section Resolving

variable {m : Type → Type} [Monad m]

/-- What a name stands for at this moment. A part that is not there is nothing. -/
def settle (scope : Scope m) : Member → m Member
  | .live part forms => do
    let type ← scope.look part
    return (forms.find? fun form => form.kind.typeName == type).getD (.data .nothing [])
  | thing => pure thing

variable [MonadExceptOf Failure m]

/-- An error about one reference. -/
def error (reference message : String) : Failure :=
  .configuration (.field message [("reference", .text reference)])

/-- The error about a reference that a name of is missing. -/
def lost (reference name : String) : Failure :=
  error reference ("Reference '" ++ reference ++ "' does not resolve: missing attribute '" ++ name ++ "'")

/-- Follows the names of a reference into a member; the first name that is missing ends the walk. So does a part that
cannot be made for want of an attribute: to who asks for it, it is missing. What a function belongs to is known by
where it was found; a type of which no names are known is looked for in the module that defines it. -/
def follow (scope : Scope m) (reference : String) (place : Option (Member × String)) (member : Member) :
    List String → m Member
  | [] => return member
  | name :: rest => do
    let further :=
      if name = "__self__" ∧ member.isOwned then place.map fun (thing, found) => thing.owner found
      else if name = "__class__" then typeOf? scope.catalogue member
      else if name = "__objclass__" then
        if member.kind = .operator then place.bind fun (thing, found) => definer? scope.catalogue thing found
        else if member.kind matches .choice _ then typeOf? scope.catalogue member
        else none
      else none
    let own := (member.own.lookup name).filter fun m => name ≠ "__class__" || !m.own.isEmpty
    match (own.orElse fun _ => further).orElse fun _ => member.find? name with
    | some next => do
      let thing ← tryCatch (settle scope next) fun f => throw (if f.lacksAttribute then lost reference name else f)
      follow scope reference (some (member, name)) (described scope.catalogue thing) rest
    | none => throw (lost reference name)

/-- The function that a text refers to. -/
def resolveText (scope : Scope m) (reference : String) : m FieldFunction :=
  match splitColon reference.toList with
  | (module, some path) =>
    if module.isEmpty || path.isEmpty then throw malformed
    else
      let moduleName := String.ofList module
      if module.head? = some '.' then
        throw (.fault .type
          ("the 'package' argument is required to perform a relative import for " ++ Text.quoted moduleName))
      else match scope.catalogue.lookup moduleName with
        | none =>
          throw (error reference ("Cannot import module '" ++ moduleName ++ "' for reference '" ++ reference ++ "'"))
        | some members => do
          match ← follow scope reference none (.data .module members) ((splitPoints path).map String.ofList) with
          | .function f _ _ => return f
          | _ => throw (error reference ("Reference '" ++ reference ++ "' does not name a callable"))
  | (_, none) => throw malformed
where
  malformed : Failure :=
    error reference ("Invalid callable reference '" ++ reference ++ "', expected 'package.module:attribute'")

/-- The error about a value that is no function and refers to none. It shows the value. -/
def unfit (v : Value) : Failure :=
  if v.holdsLong then .longNumber
  else .configuration (.field ("Expected a callable or import reference, got " ++ v.typeName)
    [("value", .text v.shown)])

/-- The function that a value is or refers to; nothing for an absent value. -/
def resolve (scope : Scope m) : Value → m (Option FieldFunction)
  | .null => pure none
  | .function f => pure (some f)
  | .text reference => return some (← resolveText scope reference)
  | v => throw (unfit v)

theorem resolve_null (scope : Scope m) : resolve scope .null = pure none := rfl

theorem resolve_function (scope : Scope m) (f : FieldFunction) : resolve scope (.function f) = pure (some f) := rfl

end Resolving

/-- What can be called under a name of a module. -/
def function (catalogue : Catalogue) (module name : String) : Except Failure FieldFunction :=
  match (catalogue.lookup module).bind fun members => members.lookup name with
  | some (.function f _ _) => .ok f
  | some thing => .error (.fault .type ("'" ++ thing.kind.typeName ++ "' object is not callable"))
  | none => .error (.fault .attribute ("module '" ++ module ++ "' has no attribute '" ++ name ++ "'"))

end Reference

end ActivityLog
