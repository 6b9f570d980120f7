import ActivityLog.Decimal.Shortest
import ActivityLog.Text.Latin1
import ActivityLog.Text.Quoted
import ActivityLog.Value

/-!
# Texts of values

Two texts of a value: `shown` writes it so that its kind can be seen (texts in quotes), `display` writes a text as it
is (`display_text`), an object with a plain text of its own as that, and everything else as `shown` does.
-/

namespace ActivityLog

namespace Value

/-- A header's name or value as the bytes that carry it. -/
def headerBytes : Value → String
  | .text s =>
    match Latin1.encode s with
    | .ok carried => Text.quotedBytes carried
    | .error _ => Text.quoted s
  | _ => "None"

/-- The names of header entries. -/
def headerNames (entries : List (Value × Value)) : List String :=
  entries.map fun e => e.1.text?.getD ""

/-- The items of a plain tuple between parentheses; a single one is followed by a comma. -/
def parenthesized : List String → String
  | [item] => "(" ++ item ++ ",)"
  | items => "(" ++ ", ".intercalate items ++ ")"

/-- A header entry as it was carried. -/
def headerPair (entry : Value × Value) : String :=
  parenthesized [headerBytes entry.1, headerBytes entry.2]

/-- The type of a web framework's header collection. -/
def collectionType (changeable : Bool) : String := if changeable then "MutableHeaders" else "Headers"

mutual

/-- The text of a value that shows its kind. -/
def shown : Value → String
  | .null => "None"
  | .bool true => "True"
  | .bool false => "False"
  | .int n => toString n
  | .float x => x.text
  | .text s => Text.quoted s
  | .bytes b => Text.quotedBytes b
  | .list items => "[" ++ ", ".intercalate (shownItems items) ++ "]"
  | .dict entries => "\x7b" ++ ", ".intercalate (shownEntries entries) ++ "\x7d"
  | .tuple typeName fields =>
    if typeName = "tuple" then parenthesized (shownPlaces fields)
    else typeName ++ "(" ++ ", ".intercalate (shownFields fields) ++ ")"
  | .object .plain attributes => "namespace(" ++ ", ".intercalate (shownAttributes attributes) ++ ")"
  | .object (.typed _ own _ _) _ => own
  | .object (.refusing typeName _) _ => "<" ++ typeName ++ " object>"
  | .headers .table entries => "\x7b" ++ ", ".intercalate (shownPairs entries) ++ "\x7d"
  | .headers (.collection changeable) entries =>
    collectionType changeable ++
      (if (headerNames entries).Nodup then "(\x7b" ++ ", ".intercalate (shownPairs entries) ++ "\x7d)"
        else "(raw=[" ++ ", ".intercalate (entries.map headerPair) ++ "])")
  | .headers _ _ => "<headers>"
  | .function _ => "<function>"
  | .shared _ _ => "<shared>"
  | .context _ => "<context>"

/-- The items of a list. -/
def shownItems : List Value → List String
  | [] => []
  | v :: rest => shown v :: shownItems rest

/-- Entries with quoted names. -/
def shownEntries : List (String × Value) → List String
  | [] => []
  | (k, v) :: rest => (Text.quoted k ++ ": " ++ shown v) :: shownEntries rest

/-- Named places of a tuple. -/
def shownFields : List (String × Value) → List String
  | [] => []
  | (k, v) :: rest => (k ++ "=" ++ shown v) :: shownFields rest

/-- Attributes of an object; one without a name is left out. -/
def shownAttributes : List (String × Value) → List String
  | [] => []
  | (k, v) :: rest => if k.isEmpty then shownAttributes rest else (k ++ "=" ++ shown v) :: shownAttributes rest

/-- The places of a tuple without their names. -/
def shownPlaces : List (String × Value) → List String
  | [] => []
  | (_, v) :: rest => shown v :: shownPlaces rest

/-- Entries whose names are values. -/
def shownPairs : List (Value × Value) → List String
  | [] => []
  | (k, v) :: rest => (shown k ++ ": " ++ shown v) :: shownPairs rest

end

/-- The plain text of a value. -/
def display : Value → String
  | .text s => s
  | .object (.typed _ _ plain _) _ => plain
  | v => v.shown

@[simp] theorem display_text (s : String) : (Value.text s).display = s := rfl

/-- The name of a value's type in messages. -/
def typeName : Value → String
  | .null => "NoneType"
  | .bool _ => "bool"
  | .int _ => "int"
  | .float _ => "float"
  | .text _ => "str"
  | .bytes _ => "bytes"
  | .list _ => "list"
  | .dict _ => "dict"
  | .tuple name _ => name
  | .object .plain _ => "SimpleNamespace"
  | .object (.typed name _ _ _) _ => name
  | .object (.refusing name _) _ => name
  | .headers .table _ => "dict"
  | .headers (.collection changeable) _ => collectionType changeable
  | .headers .mapping _ => "PlainMapping"
  | .headers .getter _ => "Getter"
  | .function (.ofType name _) => name
  | .function _ => "function"
  | .shared _ true => "mappingproxy"
  | .shared (.state _) false => "State"
  | .shared _ false => "dict"
  | .context _ => "RequestContext"

/-- The name of a value's type with its module, as attribute errors give it. -/
def qualifiedTypeName : Value → String
  | .object .plain _ => "types.SimpleNamespace"
  | v => v.typeName

/-- How many digits of a whole number are written at most. -/
def digitLimit : Nat := 4300

/-- Whether a whole number has more digits than are written. -/
def isLong (n : Int) : Bool := Nat.ble (3 * digitLimit) n.natAbs.log2 && Nat.ble (tenTo digitLimit) n.natAbs

mutual

/-- Whether a value holds a whole number of more digits than are written. -/
def holdsLong : Value → Bool
  | .int n => isLong n
  | .list items => holdLong items
  | .dict entries => entriesHoldLong entries
  | .tuple _ fields => entriesHoldLong fields
  | .object .plain attributes => entriesHoldLong attributes
  | _ => false

/-- Whether one of some values holds such a number. -/
def holdLong : List Value → Bool
  | [] => false
  | v :: rest => holdsLong v || holdLong rest

/-- Whether one of some named values holds such a number. -/
def entriesHoldLong : List (String × Value) → Bool
  | [] => false
  | (_, v) :: rest => holdsLong v || entriesHoldLong rest

end

/-- The types of objects that are compared by what they hold, and cannot be looked up by. -/
def comparedTypes : List String := ["PlainMapping", "PlainMutableMapping", "URL", "QueryParams"]

mutual

/-- Whether a value can be looked up by: texts, bytes, numbers and functions can, what holds other values cannot, but a
tuple can if its places can. -/
def isHashable : Value → Bool
  | .list _ | .dict _ | .object .plain _ | .headers _ _ | .shared _ _ | .context _ => false
  | .tuple _ fields => areHashable fields
  | .object (.typed type _ _ _) _ => !comparedTypes.contains type
  | _ => true

/-- Whether all places of a tuple can be looked up by. -/
def areHashable : List (String × Value) → Bool
  | [] => true
  | (_, v) :: rest => isHashable v && areHashable rest

end

end Value

end ActivityLog
