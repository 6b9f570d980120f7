import ActivityLog.Failure
import ActivityLog.Value.Display

/-!
# Lines for the console

A readable layout: a field without a name, time, level in brackets, the event in a column of its own, the logger in
brackets, then all other fields sorted by name as `name=value`. Texts that could be misread are quoted.
-/

namespace ActivityLog.Console

/-- The width of the event's column. -/
def eventWidth : Nat := 30

/-- The width of the level's column. -/
def levelWidth : Nat := 9

/-- A text filled up with spaces. -/
def pad (width : Nat) (s : String) : String := s ++ String.ofList (List.replicate (width - Text.size s) ' ')

/-- A field's value: a text as it is unless it holds a space, a quote, `=` or a line end. -/
def showValue (v : Value) : Except Failure String :=
  let isRisky (s : String) : Bool := s.toList.any fun c => [' ', '\t', '=', '\r', '\n', '"', '\''].contains c
  match v with
  | .text s => .ok (if isRisky s then Text.quoted s else s)
  | v => if v.holdsLong then .error .longNumber else .ok v.shown

/-- A field with its name. -/
def showField (name : String) (v : Value) : Except Failure String := (showValue v).map fun s => name ++ "=" ++ s

/-- The level's column, which needs a text. -/
def showLevel (v : Value) : Except Failure String :=
  match v with
  | .text s => .ok ("[" ++ pad levelWidth s ++ "]")
  | .bytes _ => .error (.fault .type "can't concat str to bytes")
  | v => .error (if v.isHashable then .fault .type ("object of type '" ++ v.qualifiedTypeName ++ "' has no len()")
      else .unhashable v)

/-- The part of the line that a trace or exception adds, which must be a text. -/
def showTrace (v : Value) : Except Failure String :=
  match v with
  | .null => .ok ""
  | .text s => .ok ("\n" ++ s)
  | v => .error (.fault .type ("can only concatenate str (not \"" ++ v.qualifiedTypeName ++ "\") to str"))

/-- A text in brackets. -/
def showBracketed (v : Value) : Except Failure String := v.written.map fun s => "[" ++ s ++ "]"

/-- The fields that have columns of their own, and what they show. -/
def columns : List (String × (Value → Except Failure String)) :=
  [("", showField ""), ("timestamp", Value.written), ("level", showLevel),
    ("event", fun v => v.written.map (pad eventWidth)), ("logger", showBracketed), ("logger_name", showBracketed)]

/-- The fields that are shown under the line, or tell that there is something to show. -/
def traces : List String := ["stack", "exception", "exc_info"]

/-- The names of columns up to the first one that cannot be shown. -/
def reached (event : Record) : List (String × (Value → Except Failure String)) → List String
  | [] => []
  | (name, f) :: rest =>
    match (event.get? name).map f with
    | some (.error _) => [name]
    | _ => name :: reached event rest

/-- What is left of an event that is shown: what has a place of its own is taken out on the way. -/
def remainder (event shown : Record) : Record :=
  (traces ++ reached shown columns).foldl (fun e name => e.erase name) event

/-- The text without the spaces at its end. -/
def dropSpaces (s : String) : String := String.ofList ((s.toList.reverse.dropWhile (· == ' ')).reverse)

/-- An event as a line. -/
def render (event : Record) : Except Failure String := do
  let first ← columns.mapM fun (name, f) => ((event.get? name).map f).getD (.ok "")
  let others := (event.entries.filter fun e => !traces.contains e.1 && (columns.lookup e.1).isNone).mergeSort
    fun a b => !Text.isBefore b.1 a.1
  let fields ← others.mapM fun e => showField e.1 e.2
  let parts := (first ++ fields).filter fun s => !s.isEmpty
  let stack ← showTrace (event.value "stack")
  let exception ← showTrace (event.value "exception")
  let broken := !exception.isEmpty || (event.value "exc_info").truthy
  let separator := if !stack.isEmpty && broken then "\n\n" ++ String.ofList (List.replicate 79 '=') ++ "\n" else ""
  return dropSpaces (" ".intercalate parts) ++ stack ++ separator ++ exception

end ActivityLog.Console
