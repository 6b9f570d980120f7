import ActivityLog.Answer
import ActivityLog.Decimal.Binary64
import ActivityLog.OrderedMap
import ActivityLog.Script

/-!
# Values of log fields

What a log field, an item of a document or an attribute of a host may hold. Beside plain data there are objects with
attributes, header collections, functions, and references to things that live longer than one value: a request's
record, a host's state, a logging context.
-/

namespace ActivityLog

/-- The built-in field functions. -/
inductive Builtin where
  | timestamp
  | newCorrelationId
  | receivedAt
  | sentAt
  | responseTime
  | clientHost
  | clientPort
  | httpProtocol
  | requestPath
  deriving DecidableEq, Repr

/-- The name of a function: the module that defines it and its name there. -/
structure FunctionName where
  module : String
  name : String
  deriving DecidableEq, Repr

/-- What a named function does. -/
inductive FunctionBody (V : Type) where
  | builtin (f : Builtin)
  | script (s : Script V)
  /-- A type or function that is no field function, and how it answers when it is called as one. -/
  | foreign (answer : Answer)

/-- A function that a field description may name or hold. -/
inductive Callable (V : Type) where
  | script (s : Script V)
  | named (name : FunctionName) (body : FunctionBody V)
  /-- An object that can be called, known by its type only. -/
  | ofType (typeName : String) (body : FunctionBody V)

/-- How an object answers reads and writes of its attributes. -/
inductive ObjectKind where
  /-- A bag of attributes, open to writes. -/
  | plain
  /-- An object of a named type, open to writes, with texts of its own: one that shows its kind, and a plain one. It may
  be a collection without entries. -/
  | typed (typeName shown plain : String) (isEmpty : Bool)
  /-- An object of a named type that refuses writes with the given kind of failure. -/
  | refusing (typeName : String) (fault : String)
  deriving DecidableEq, Repr

/-- How a header collection is read. -/
inductive HeaderStyle where
  /-- A plain table, an item of JSON's kind. -/
  | table
  /-- A table of another type. -/
  | mapping
  /-- An object that only looks up exact names. -/
  | getter
  /-- A web framework's collection, that of a request or that of a response, which can be changed: names in lower case,
  the first match wins. -/
  | collection (changeable : Bool)
  deriving DecidableEq, Repr

/-- Something that outlives the values that refer to it, and may change. -/
inductive Shared where
  /-- The record of a request's log. -/
  | record (lifecycle : Nat)
  /-- The state object of a host. -/
  | state (host : Nat)
  /-- The entries behind a host's state object. -/
  | stateEntries (host : Nat)
  /-- A server's description of the call that a host stands for. -/
  | scope (host : Nat)
  deriving DecidableEq, Repr

/-- A value. -/
inductive Value where
  | null
  | bool (b : Bool)
  | int (n : Int)
  | float (x : Binary64)
  /-- A text of code points (see `Text.points`). -/
  | text (s : String)
  | bytes (b : List UInt8)
  | list (items : List Value)
  | dict (entries : List (String × Value))
  /-- A tuple of a named type with named places; a plain tuple has the type `tuple` and no names. -/
  | tuple (typeName : String) (fields : List (String × Value))
  | object (kind : ObjectKind) (attributes : List (String × Value))
  | headers (style : HeaderStyle) (entries : List (Value × Value))
  | function (f : Callable Value)
  /-- A reference to something shared, or a read-only view of it. -/
  | shared (thing : Shared) (readOnly : Bool)
  /-- A logging context. -/
  | context (id : Nat)

instance : Inhabited Value := ⟨.null⟩

/-- A function of request, response and record. -/
abbrev FieldFunction := Callable Value

/-- What a function does, whatever it is known by. -/
def Callable.body : FieldFunction → FunctionBody Value
  | .script s => .script s
  | .named _ body => body
  | .ofType _ body => body

/-- The record of one request: field names and values in the order of insertion. -/
abbrev Record := OrderedMap Value

namespace Value

/-- Whether the value stands for "absent". -/
def isNull : Value → Bool
  | .null => true
  | _ => false

/-- The text of a text value. -/
def text? : Value → Option String
  | .text s => some s
  | _ => none

/-- Whole numbers of 32 bits are less than this, and not less than minus this. -/
def bound32 : Int := 0x80000000

/-- Whole numbers of 64 bits are less than this, and not less than minus this. -/
def bound64 : Int := 0x8000000000000000

/-- Whether a value counts as true. References and functions do. -/
def truthy : Value → Bool
  | .null => false
  | .bool b => b
  | .int n => n != 0
  | .float x => !x.isZero
  | .text s => !s.isEmpty
  | .bytes b => !b.isEmpty
  | .list items => !items.isEmpty
  | .dict entries => !entries.isEmpty
  | .tuple _ fields => !fields.isEmpty
  | .object (.typed _ _ _ isEmpty) _ => !isEmpty
  | .object _ _ => true
  | .headers style entries => style == .getter || !entries.isEmpty
  | .function _ => true
  | .shared _ _ => true
  | .context _ => true

/-- An object of a named type whose texts give no more than its type. -/
def ofType (typeName : String) (attributes : List (String × Value)) : Value :=
  .object (.typed typeName ("<" ++ typeName ++ ">") ("<" ++ typeName ++ ">") false) attributes

/-- What stands for a table within itself. -/
def itself : Value := .object (.typed "dict" "\x7b...\x7d" "\x7b...\x7d" false) []

/-- Whether the value is what stands for a table within itself. -/
def isItself : Value → Bool
  | .object (.typed "dict" _ _ _) _ => true
  | _ => false

/-- What stands for a plain object within itself. -/
def plainItself : Value := .object (.typed "types.SimpleNamespace" "namespace(...)" "namespace(...)" false) []

/-- A plain tuple. -/
def ofList (items : List Value) : Value := .tuple "tuple" (items.map fun v => ("", v))

/-- The attribute of an object or the named place of a tuple. -/
def attr? : Value → String → Option Value
  | .object _ attributes, name => attributes.lookup name
  | .tuple _ fields, name => fields.lookup name
  | _, _ => none

/-- An attribute, absent when there is none. -/
def attr (v : Value) (name : String) : Value := (v.attr? name).getD .null

mutual

/-- The value with every reference replaced, those in the attributes of a named type's object apart. -/
def mapShared (f : Shared → Bool → Value) : Value → Value
  | .shared thing readOnly => f thing readOnly
  | .list items => .list (mapSharedItems f items)
  | .dict entries => .dict (mapSharedEntries f entries)
  | .tuple typeName fields => .tuple typeName (mapSharedEntries f fields)
  | .object .plain attributes => .object .plain (mapSharedEntries f attributes)
  | v => v

/-- Items with every reference replaced. -/
def mapSharedItems (f : Shared → Bool → Value) : List Value → List Value
  | [] => []
  | v :: rest => mapShared f v :: mapSharedItems f rest

/-- Entries with every reference replaced. -/
def mapSharedEntries (f : Shared → Bool → Value) : List (String × Value) → List (String × Value)
  | [] => []
  | (k, v) :: rest => (k, mapShared f v) :: mapSharedEntries f rest

end

theorem isNull_iff {v : Value} : v.isNull = true ↔ v = .null := by
  cases v <;> simp [isNull]

end Value

/-- A value or its absence as an option. -/
def Value.toOption : Value → Option Value
  | .null => none
  | v => some v

/-- A text or nothing as a value. -/
def Value.ofText? : Option String → Value
  | some s => .text s
  | none => .null

/-- The value under a name, absent when there is none. -/
def OrderedMap.value (m : OrderedMap Value) (name : String) : Value := (m.get? name).getD .null

/-- Writes a value under a name; an absent value takes the name out. -/
def OrderedMap.store (m : OrderedMap Value) (name : String) (value : Value) : OrderedMap Value :=
  if value.isNull then m.erase name else m.insert name value

end ActivityLog
