import ActivityLog.Descriptor.Reference
import ActivityLog.Signature

/-!
# Catalogues of modules

A module is described by entries: the functions and types that it defines, plain data, and names that it takes over
from other modules. `Catalogue.ofModules` follows what is taken over, so that each name stands for the thing that its
own module defines, and what a type inherits. A module is a thing too: the modules within it are among its names.
-/

namespace ActivityLog

/-- What a module's names stand for. Parameters are words: one with `?` may be left out, `*` takes further arguments,
`**` further names, and `=` stands for parameters that go by their names alone and may be left out. -/
inductive Entry where
  | function (name parameters : String)
  /-- A type with its base, if it has one: a module and a name. -/
  | ofType (name : String) (kind : Kind) (base : Option (String × String)) (members : List Entry)
  /-- Among the members of a type: how the type is called, and as what, if not by its own `__init__`. -/
  | construct (function parameters : String)
  /-- Among the members of a type: a function of the type itself. -/
  | classMethod (name parameters : String)
  /-- Among the members of a type: attributes that functions of the same names compute. -/
  | property (names : String)
  | data (kind : Kind) (names : String)
  /-- A text that is known. -/
  | text (name value : String)
  /-- Among the members of a type of named texts: one of them. -/
  | choice (name value : String)
  /-- A name for something that another module defines under another one. -/
  | renamed (name module other : String)
  /-- Things that another module defines. -/
  | shared (module names : String)
  | modules (names : String)
  /-- Functions of the machine itself, known by the same names in a module, and how many arguments they take. -/
  | native (module : String) (limit : Attribute.Limit) (names : String)
  /-- Types of another module that are not described further. -/
  | foreignTypes (module names : String)
  /-- A module under another name. -/
  | moduleAs (name module : String)
  /-- An object of a type: a module and a name. -/
  | object (name : String) (type : String × String)
  /-- An object of a type, too, that can be called, but refuses to be. It may stand for another type, whose names it
  then has as well. -/
  | alias (name : String) (type : String × String) (standsFor : Option (String × String)) (refusal : String)
  /-- The same, but it stands for another such object of a type, which stands for a form of a module. -/
  | aliasOfAlias (name : String) (type standsFor form : String × String) (refusal : String)
  /-- A function that is known by another module and name. -/
  | known (name module qualified parameters : String)
  /-- Among the members of a type: it stands for a more special one with types in brackets behind it. -/
  | bracketed
  /-- Among the members of a type: attributes that its objects have and it has not. -/
  | held (kind : Kind) (names : String)
  /-- The same, for an attribute that is an object of a type. -/
  | holds (name : String) (type : String × String)
  /-- The same, and some functions of the object do something. -/
  | doing (name : String) (type : String × String) (functions : List (String × Operation))
  /-- The same, for an object that also has the names of objects of a further type. -/
  | standing (name : String) (type further : String × String)
  /-- The same, for one that can be called. -/
  | callable (name : String) (type : String × String)
  /-- A part of the running application, which is an object of one of some types if it is there: a name of a module, or,
  among the members of a type, an attribute of its objects. -/
  | part (name : String) (part : Live) (types : List (String × String))
  /-- Functions of an object of a type of this module. -/
  | ofObject (type names : String)
  /-- Among the members of a type: the names of a further type, as that one's own. -/
  | also (type : String × String)
  /-- Among the members of a type: under a name, what a further type has under another one. -/
  | sameAs (name : String) (type : String × String) (other : String)

/-- A module as described. -/
structure Module where
  name : String
  entries : List Entry

namespace Signature

/-- The signature that words describe. -/
def ofWords (words : List String) : Signature :=
  let named (w : String) : Bool := !w.toList.contains '*' && w != "="
  let isOptional (w : String) : Bool := w.toList.getLast? == some '?'
  { required := words.filter fun w => named w && !isOptional w
    optional := (words.filter fun w => named w && isOptional w).map fun w => String.ofList w.toList.dropLast
    more := words.contains "*", moreNames := words.contains "**" }

end Signature

namespace Catalogue

/-- The number of arguments of a field function. -/
def givenArguments : Nat := 3

/-- Functions with how they answer the arguments of a field function. -/
abbrev Answers := List (FunctionName × Answer)

/-- The answer of a function that gets the arguments of a field function after `held` others. With an object held, one
that is told for the name after `self.` comes first. -/
def suited (answers : Answers) (module qualified function : String) (held : Nat) : Answer :=
  let ofHeld := if held = 0 then none else answers.lookup ⟨module, "self." ++ qualified⟩
  (ofHeld.orElse fun _ => answers.lookup ⟨module, qualified⟩).getD (Attribute.unsuited function)

/-- A function that is called with the arguments of a field function, after `held` others. -/
def foreign (answers : Answers) (module qualified function parameters : String) (held : Nat) : FieldFunction :=
  .named ⟨module, qualified⟩ (.foreign (match (Signature.ofWords (Kind.words parameters)).fault
      (held + givenArguments) [] with
    | some fault => Attribute.typeFault (function ++ "() " ++ fault)
    | none => suited answers module qualified function held))

/-- The entry of a type. -/
def describedType? (library : List Module) (module name : String) : Option (Option (String × String) × List Entry) :=
  (library.find? fun m => m.name == module).bind fun m => m.entries.findSome? fun
    | .ofType n _ base members => if n = name then some (base, members) else none
    | _ => none

/-- The types that a type inherits from, itself first: module, name and members of each. The fuel bounds their
number. -/
def ancestry (library : List Module) : Nat → String → String → List (String × String × List Entry)
  | 0, _, _ => []
  | fuel + 1, module, name =>
    match describedType? library module name with
    | none => []
    | some (base, members) =>
      (module, name, members) :: match base with
        | some (m, n) => ancestry library fuel m n
        | none => []

/-- The longest line of types that is followed. -/
def longestLine : Nat := 8

/-- The name of a type as the faults of its functions give it. -/
def faultName (module type : String) : String :=
  if ["re", "datetime", "_contextvars", "types"].contains module then module ++ "." ++ type else type

/-- A function of a type that comes with it. Asked of a type, one that belongs to it is known by that type's name. -/
def comingWith (answers : Answers) (asked type name : String) : Member :=
  let owner := if ["__new__", "maketrans"].contains name then type else asked
  let qualified : FunctionName := ⟨"None", owner ++ "." ++ name⟩
  .function (.named qualified (.foreign ((answers.lookup qualified).getD (Attribute.routineAnswer type owner name))))
    .routine []

/-- What a function has of its own: a row of values for the parameters that may be left out, and a table of values for
those of them that go by their names alone. -/
def ofParameters (parameters : String) : List (String × Member) :=
  let words := Kind.words parameters
  (if (Signature.ofWords words).optional.isEmpty then [] else [("__defaults__", .data .tuple [])]) ++
    if words.contains "=" then [("__kwdefaults__", .data .table [])] else []

/-- A function of a type, or one of an object together with the object. -/
def functionMember (answers : Answers) (module qualified parameters : String) (ofObject : Bool) : Member :=
  let apart (held : Nat) : FieldFunction := foreign answers module qualified qualified parameters held
  if ofObject then
    .function (apart 1) .method
      (("__func__", .function (apart 0) .function (ofParameters parameters)) :: ofParameters parameters)
  else .function (apart 0) .function (ofParameters parameters)

/-- What an operator or a function of a type has of its own: the type that defines it. -/
def ofDefiner (answers : Answers) (module type : String) : List (String × Member) :=
  let answer := (answers.lookup ⟨module, type⟩).getD (Attribute.classAnswer type)
  [("__objclass__", .function (.named ⟨module, type⟩ (.foreign answer)) .type [])]

/-- A type of a module that is not described further, under its name. -/
def ofForeignType (answers : Answers) (module name : String) : String × Member :=
  (name, .function (.named ⟨module, name⟩ (.foreign (suited answers module name name 0))) .type [])

/-- A member of a type, of the type itself or of an object of it; `asked` is the type that was asked for it, `object`
makes an object of a type. -/
def typeMember (answers : Answers) (object : String × String → Member) (ofObject : Bool)
    (asked module type : String) : Entry → List (String × Member)
  | .function name parameters => [(name, functionMember answers module (type ++ "." ++ name) parameters ofObject)]
  | .known name owner qualified parameters => [(name, functionMember answers owner qualified parameters ofObject)]
  | .bracketed =>
    [("__class_getitem__", .function (.named ⟨"types", "GenericAlias"⟩
      (.foreign (Attribute.typeFault "GenericAlias expected 2 arguments, got 4"))) .method [])]
  | .held kind names => if ofObject then (Kind.words names).map fun n => (n, .data kind []) else []
  | .holds name held => if ofObject then [(name, object held)] else []
  | .doing name held functions => if ofObject then
      let m := object held
      [(name, m.withNames (functions.filterMap fun (n, op) => (m.own.lookup n).map fun f => (n, f.performing op)))]
      else []
  | .standing name held further => if ofObject then
      let m := object held
      [(name, .data m.kind (m.own ++ (object further).own))]
      else []
  | .callable name held => if ofObject then [(name, (object held).calling)] else []
  | .part name part types => if ofObject then [(name, .live part (types.map object))] else []
  | .object name held => [(name, object held)]
  | .classMethod name parameters => [(name, functionMember answers module (type ++ "." ++ name) parameters true)]
  | .property names => (Kind.words names).map fun n =>
      let computing := foreign answers module (type ++ "." ++ n) (type ++ "." ++ n) "self" 0
      (n, if ofObject then .data (.instance "object") [] else .data .property [("fget", .ofFunction computing)])
  | .foreignTypes home names => (Kind.words names).map (ofForeignType answers home)
  | .data .routine names => (Kind.words names).map fun n => (n, comingWith answers asked type n)
  | .data .looseRoutine names => (Kind.words names).map fun n =>
      if ofObject then (n, comingWith answers asked type n)
      else (n, .function (.ofType Kind.looseRoutine.typeName (.foreign (.needs .request (.ofType type)
        (.rejects .request "TypeError"
          ("descriptor '" ++ n ++ "' for '" ++ faultName module type ++ "' objects doesn't apply to a '") "' object")
        (Attribute.looseRoutineAnswer type n)))) .looseRoutine (ofDefiner answers module type))
  | .data .looseOperator names => (Kind.words names).map fun n =>
      if ofObject then (n, .function (.ofType Kind.operator.typeName (.foreign (Attribute.operatorAnswer type n 3)))
        .operator (ofDefiner answers module type))
      else (n, .function (.ofType Kind.looseOperator.typeName (.foreign (.needs .request (.ofType type)
        (.rejects .request "TypeError"
          ("descriptor '" ++ n ++ "' requires a '" ++ faultName module type ++ "' object but received a '") "'")
        (Attribute.looseOperatorAnswer type n)))) .looseOperator (ofDefiner answers module type))
  | .data (.instance "getset_descriptor") names => (Kind.words names).map fun n =>
      (n, .data (.instance "getset_descriptor") (ofDefiner answers module type))
  | .data (.instance "member_descriptor") names => (Kind.words names).map fun n =>
      (n, .data (.instance "member_descriptor") (ofDefiner answers module type))
  | .choice name value =>
    let own := if ofObject then [] else (object (module, type)).own
    let known := ["name", "_name_"].map (·, .knownText name) ++ ["value", "_value_"].map (·, .knownText value)
    [(name, .data (.choice type) (Member.formatting type value :: known ++ own))]
  | .data kind names => (Kind.words names).map fun n => (n, .data kind [])
  | _ => []

/-- The type of a type, if it has members of its own. -/
def typeOfType? (library : List Module) (module name : String) : Option (String × String) :=
  let line := ancestry library longestLine module name
  if line.any fun (m, t, _) => m == "enum" && t == "Enum" then some ("enum", "EnumType")
  else if line.any fun (m, t, _) => m == "pydantic.main" && t == "BaseModel" then
    some ("pydantic._internal._model_construction", "ModelMetaclass")
  else if line.any fun (m, t, _) => (m == "abc" && t == "ABC") || m == "collections.abc" then some ("abc", "ABCMeta")
  else if line.any fun (m, t, _) => m == "typing" && t == "Any" then some ("typing", "_AnyMeta")
  else none

/-- What calling a type with the arguments of a field function does. -/
def constructing (library : List Module) (answers : Answers) (module name : String) : FieldFunction :=
  let how : Option (String × String) := (ancestry library longestLine module name).findSome? fun (_, t, members) =>
    members.findSome? fun
      | .function "__init__" parameters => some (t ++ ".__init__", parameters)
      | .construct function parameters => some (function, parameters)
      | _ => none
  match how with
  | some (function, parameters) => foreign answers module name function parameters 1
  | none =>
    .named ⟨module, name⟩ (.foreign ((answers.lookup ⟨module, name⟩).getD
      (if module = "builtins" then Attribute.classAnswer name
        else Attribute.typeFault (name ++ "() takes no arguments"))))

/-- How many objects are followed that hold each other. -/
def longestHold : Nat := 5

/-- The members of a type, or of an object of it, inherited ones last. The fuel bounds how many objects are followed
that hold each other. -/
def inheritedWith (library : List Module) (answers : Answers) (ofObject : Bool) (module name : String) :
    Nat → List (String × Member)
  | 0 => follow fun type => .data (.instance type.2) []
  | fuel + 1 => follow fun type =>
    .data (.instance type.2) (inheritedWith library answers true type.1 type.2 fuel ++
      [("__class__", .function (constructing library answers type.1 type.2) .type [])])
where
  /-- The members, with a way to make objects. -/
  follow (object : String × String → Member) : List (String × Member) :=
    (ancestry library longestLine module name).flatMap fun (m, t, members) =>
      members.flatMap fun
        | .also further => ofFurther object ofObject name further
        | .sameAs n further other =>
          let found := if other = "__class__" then
              some (.function (constructing library answers further.1 further.2) .type
                (ofFurther object false further.2 further))
            else (ofFurther object ofObject name further).lookup other
          found.toList.map fun m => (n, m)
        | entry => typeMember answers object ofObject name m t entry
  /-- The members of a further type, as those of the type that is asked. -/
  ofFurther (object : String × String → Member) (ofObject : Bool) (asked : String) (further : String × String) :
      List (String × Member) :=
    ((describedType? library further.1 further.2).map Prod.snd).getD [] |>.flatMap
      (typeMember answers object ofObject asked further.1 further.2)

/-- The members of a type, or of an object of it, inherited ones last. -/
def inherited (library : List Module) (answers : Answers) (ofObject : Bool) (module name : String) :
    List (String × Member) :=
  inheritedWith library answers ofObject module name longestHold

/-- What the type of a type gives to it, apart from the names that all things have. -/
def fromOwnType (library : List Module) (answers : Answers) (module name : String) : List (String × Member) :=
  match typeOfType? library module name with
  | none => []
  | some (m, t) =>
    let common (n : String) : Bool :=
      n == "__new__" || (Kind.ofType.find? n).any fun k => k == .looseRoutine || k == .looseOperator
    ("__class__", .function (constructing library answers m t) .type (inherited library answers false m t)) ::
      (inherited library answers true m t).filter fun (n, _) => !common n

/-- What the names of an interface stand for beside its functions. -/
def ofInterface (library : List Module) (module name : String) : List (String × Member) :=
  if (typeOfType? library module name).any fun (m, t) =>
      (m == "abc" && t == "ABCMeta") || t == "ModelMetaclass" then
    [("__abstractmethods__", .data (.instance "frozenset") []), ("_abc_impl", .data (.instance "_abc_data") [])]
  else []

/-- The base of the first of some types in a line, with the members that it inherits: a further type whose names it
has, or the next in the line. -/
def baseMembers (library : List Module) (answers : Answers) :
    List (String × String × List Entry) → List (String × Member)
  | (_, _, first) :: rest =>
    let further := first.findSome? fun
      | .also further => some further
      | _ => none
    match further, rest with
    | some (m, t), _ =>
      [("__base__", .function (constructing library answers m t) .type (inherited library answers false m t))]
    | none, (m, t, members) :: rest =>
      [("__base__", .function (constructing library answers m t) .type
        (inherited library answers false m t ++ baseMembers library answers ((m, t, members) :: rest) ++
          ofInterface library m t ++ fromOwnType library answers m t))]
    | none, [] => []
  | [] => []

/-- What the names of a type with named values stand for beside its functions. -/
def ofNamedValues (library : List Module) (module name : String) : List (String × Member) :=
  if typeOfType? library module name = some ("enum", "EnumType") then
    [("__members__", .data (.instance "mappingproxy") [])]
  else []

/-- The members of a type. Those that its own type gives come last. -/
def typeMembers (library : List Module) (answers : Answers) (module name : String) : List (String × Member) :=
  inherited library answers false module name ++
    baseMembers library answers (ancestry library longestLine module name) ++ ofInterface library module name ++
    ofNamedValues library module name ++
    fromOwnType library answers module name

/-- The members of an object of a type: its type among them. -/
def objectMembers (library : List Module) (answers : Answers) (module name : String) : List (String × Member) :=
  inherited library answers true module name ++ ofInterface library module name ++
    [("__class__", .function (constructing library answers module name) .type
      (inherited library answers false module name))]

/-- A member of an object that refuses to be called, which its own `__call__` refuses alike. -/
def refusing (text : String) : String × Member → String × Member
  | ("__call__", .function (.named n _) kind own) =>
    ("__call__", .function (.named n (.foreign (Attribute.typeFault text))) kind own)
  | m => m

/-- An object of a type. What it stands for lends it the names that are not peculiar to a type. -/
def objectMember (library : List Module) (answers : Answers) (type : String × String)
    (standsFor : Option (String × String)) (refusal : Option String) : Member :=
  let lent := match standsFor with
    | some (m, t) =>
      let members := inherited library answers false m t
      ((members ++ ofInterface library m t).filter fun (n, _) => !("__".toList.isPrefixOf n.toList)) ++
        [("__origin__", .function (constructing library answers m t) .type (typeMembers library answers m t))]
    | none => []
  let own := objectMembers library answers type.1 type.2 ++ lent
  match refusal with
  | some text => .function (.ofType type.2 (.foreign (Attribute.typeFault text))) (.instance type.2)
      (own.map (refusing text))
  | none => .data (.instance type.2) own

/-- What a form makes of types in brackets behind it. -/
def bracketing (answers : Answers) (module name : String) : String × Member :=
  let parameters := if name = "Literal" then "self *" else "self parameters"
  ("_getitem", .ofFunction (foreign answers module name name parameters 0))

/-- A form of a module: an object of a type that takes types in brackets. -/
def formMember (library : List Module) (answers : Answers) (module name : String) (type : String × String)
    (refusal : String) : Member :=
  (objectMember library answers type none (some refusal)).withNames [bracketing answers module name]

/-- What an entry defines in its module, apart from what it takes over. -/
def defined (library : List Module) (answers : Answers) (module : String) : Entry → List (String × Member)
  | .function name parameters =>
    [(name, .function (foreign answers module name name parameters 0) .function (ofParameters parameters))]
  | .known name owner qualified parameters =>
    [(name, .function (foreign answers owner qualified qualified parameters 0) .function (ofParameters parameters))]
  | .ofType name kind _ _ =>
    [(name, .function (constructing library answers module name) kind (typeMembers library answers module name))]
  | .data kind names => (Kind.words names).map fun n => (n, .data kind [])
  | .text name value => [(name, .knownText value)]
  | .native home limit names => (Kind.words names).map fun n =>
      let fault := Attribute.typeFault (limit.refusal givenArguments home n)
      (n, .function (.named ⟨home, n⟩ (.foreign fault)) .routine [])
  | .foreignTypes home names => (Kind.words names).map (ofForeignType answers home)
  | .object name type => [(name, objectMember library answers type none none)]
  | .part name part types =>
    [(name, .live part (types.map fun type => objectMember library answers type none none))]
  | .alias name type none refusal => [(name, formMember library answers module name type refusal)]
  | .alias name type standsFor refusal => [(name, objectMember library answers type standsFor (some refusal))]
  | .aliasOfAlias name type standsFor form refusal =>
    let maker := bracketing answers form.1 form.2
    let inner := (objectMember library answers standsFor none (some refusal)).withNames
      [("__origin__", formMember library answers form.1 form.2 ("typing", "_SpecialForm") refusal), maker]
    [(name, (objectMember library answers type none (some refusal)).withNames
      [("__origin__", inner), ("__metadata__", .data .tuple []), maker])]
  | .ofObject type names =>
    let members := inherited library answers true module type
    let object := objectMember library answers (module, type) none none
    (Kind.words names).filterMap fun n => (members.lookup n).map fun m => (n, m.within object)
  | _ => []

/-- What a catalogue has under a name of a module. -/
def find? (c : Catalogue) (module name : String) : Option (String × Member) :=
  ((c.lookup module).bind (·.lookup name)).map fun m => (name, m)

/-- A catalogue in which each module has got what the entries take over from the catalogue as it was. -/
def takeOver (library : List Module) (taken : Catalogue → Entry → List (String × Member)) (c : Catalogue) : Catalogue :=
  c.map fun (name, members) =>
    (name, members ++ ((library.filter fun m => m.name == name).flatMap fun m => m.entries.flatMap (taken c)))

/-- What an entry takes over under another name. -/
def renamed (c : Catalogue) : Entry → List (String × Member)
  | .renamed name module other => ((c.find? module other).map fun (_, m) => (name, m)).toList
  | _ => []

/-- What an entry takes over. -/
def shared (c : Catalogue) : Entry → List (String × Member)
  | .shared module names => (Kind.words names).filterMap (c.find? module)
  | _ => []

/-- The name of a module within another one. -/
def inside? (outer name : String) : Option String :=
  if (outer ++ ".").toList.isPrefixOf name.toList then
    let rest := name.toList.drop (outer.length + 1)
    if rest.contains '.' then none else some (String.ofList rest)
  else none

/-- The modules among the names of a module. -/
def modulesOf (library : List Module) (outer : String) : List (String × String) :=
  (library.filterMap fun m => (inside? outer m.name).map fun n => (n, m.name)) ++
    (library.filter fun m => m.name == outer).flatMap fun m => m.entries.flatMap fun
      | .modules names => (Kind.words names).map fun n => (n, n)
      | .moduleAs name module => [(name, module)]
      | _ => []

/-- The names of a module, modules among them, with what all modules have. A module with others within has a list of
places. The fuel bounds how deep modules lie in each other. -/
def namesOf (library : List Module) (shared : List (String × Member)) (c : Catalogue) :
    Nat → String → List (String × Member)
  | 0, _ => []
  | fuel + 1, module =>
    let places := if library.any fun m => (inside? module m.name).isSome then [("__path__", .data .list [])] else []
    ((c.lookup module).getD []) ++ places ++ shared ++
      (modulesOf library module).map fun (n, m) => (n, .data .module (namesOf library shared c fuel m))

/-- What all modules have that describes where they come from. -/
def origins (library : List Module) (answers : Answers) : List (String × Member) :=
  [("__spec__", objectMember library answers ("_frozen_importlib", "ModuleSpec") none none),
    ("__loader__", objectMember library answers ("_frozen_importlib_external", "SourceFileLoader") none none)]

/-- The catalogue of modules that are described. Some of them may have further members. -/
def ofModules (library : List Module) (answers : Answers) (further : Catalogue) : Catalogue :=
  let c : Catalogue := library.map fun m =>
    (m.name, ((further.lookup m.name).getD []) ++ m.entries.flatMap (defined library answers m.name))
  let c := takeOver library shared (takeOver library renamed c)
  let origins := origins library answers
  library.map fun m => (m.name, namesOf library origins c longestLine m.name)

end Catalogue

end ActivityLog
