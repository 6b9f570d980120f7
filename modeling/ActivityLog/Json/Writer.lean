import ActivityLog.Failure
import ActivityLog.Text.Escaped
import ActivityLog.Value.Display

/-!
# Values in JSON

`Json.write` writes a value as one line of ASCII: a comma and a space between items, a colon and a space after names.
What JSON cannot hold (bytes, objects, functions) is written as the text that `Value.shown` gives it. `Json.line` writes
an event, unless a record in it holds itself or a number is too long (`line_of_not_circular`).
-/

namespace ActivityLog.Json

/-- The name of an entry whose name is a value. -/
def nameOf : Value → String
  | .text s => s
  | .bool true => "true"
  | .bool false => "false"
  | .null => "null"
  | .float x => x.json
  | v => v.shown

mutual

/-- A value as JSON. -/
def write : Value → String
  | .null => "null"
  | .bool true => "true"
  | .bool false => "false"
  | .int n => toString n
  | .float x => x.json
  | .text s => Text.escaped s
  | .list items => "[" ++ ", ".intercalate (writeItems items) ++ "]"
  | .dict entries => "\x7b" ++ ", ".intercalate (writeEntries entries) ++ "\x7d"
  | .tuple _ fields => "[" ++ ", ".intercalate (writeFields fields) ++ "]"
  | .headers .table entries => "\x7b" ++ ", ".intercalate (writePairs entries) ++ "\x7d"
  | v => Text.escaped v.shown

/-- The items of an array. -/
def writeItems : List Value → List String
  | [] => []
  | v :: rest => write v :: writeItems rest

/-- The members of an object. -/
def writeEntries : List (String × Value) → List String
  | [] => []
  | (k, v) :: rest => (Text.escaped k ++ ": " ++ write v) :: writeEntries rest

/-- The values of a tuple's places. -/
def writeFields : List (String × Value) → List String
  | [] => []
  | (_, v) :: rest => write v :: writeFields rest

/-- The members of an object whose names are values. -/
def writePairs : List (Value × Value) → List String
  | [] => []
  | (k, v) :: rest => (Text.escaped (nameOf k) ++ ": " ++ write v) :: writePairs rest

end

mutual

/-- Whether writing a value would come upon a record within itself. -/
def isCircular : Value → Bool
  | .list items => areCircular items
  | .dict entries => haveCircular entries
  | .tuple _ fields => haveCircular fields
  | v => v.isItself

/-- Whether one of some values is circular. -/
def areCircular : List Value → Bool
  | [] => false
  | v :: rest => isCircular v || areCircular rest

/-- Whether one of some named values is circular. -/
def haveCircular : List (String × Value) → Bool
  | [] => false
  | (_, v) :: rest => isCircular v || haveCircular rest

end

/-- An event as JSON. A record within itself cannot be written, nor can a number of too many digits. -/
def line (event : Record) : Except Failure String :=
  if haveCircular event.entries then .error (.fault .value "Circular reference detected")
  else if Value.entriesHoldLong event.entries then .error .longNumber
  else .ok (write (.dict event.entries))

theorem line_of_not_circular {event : Record} (h : haveCircular event.entries = false)
    (hl : Value.entriesHoldLong event.entries = false) : line event = .ok (write (.dict event.entries)) := by
  simp [line, h, hl]

end ActivityLog.Json
