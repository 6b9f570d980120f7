import ActivityLog.Failure
import ActivityLog.Text.Blank
import ActivityLog.Text.LowerCase
import ActivityLog.Text.UpperCase
import ActivityLog.Value.Display

/-!
# Severity levels

The five levels, the names that mean them, and the thresholds. `Level.ofValue` reads a level from any value and fails
on unknown names; `Level.ofLine` takes `info` instead. Both fail on values whose texts cannot be made. Main statement:
the name of a level is read back as it (`ofName?_name`).
-/

namespace ActivityLog

/-- A severity level. -/
inductive Level where
  | debug
  | info
  | warning
  | error
  | critical
  deriving DecidableEq, Repr

namespace Level

/-- All levels, from the least severe on. -/
def all : List Level := [.debug, .info, .warning, .error, .critical]

/-- The name of a level. -/
def name : Level → String
  | .debug => "debug"
  | .info => "info"
  | .warning => "warning"
  | .error => "error"
  | .critical => "critical"

/-- The name of a level in capitals. -/
def capitals : Level → String
  | .debug => "DEBUG"
  | .info => "INFO"
  | .warning => "WARNING"
  | .error => "ERROR"
  | .critical => "CRITICAL"

/-- The number by which a level is compared with the threshold. -/
def number : Level → Nat
  | .debug => 10
  | .info => 20
  | .warning => 30
  | .error => 40
  | .critical => 50

/-- Other names of levels. -/
def aliases : List (String × Level) :=
  [("warn", .warning), ("verbose", .debug), ("silly", .debug), ("fatal", .critical)]

/-- The level that a name in small letters means. -/
def ofName? (name : String) : Option Level :=
  match aliases.lookup name with
  | some l => some l
  | none => all.find? fun l => l.name == name

/-- What a level is read from: an object's own `value`, or the value itself. -/
def subject (v : Value) : Value :=
  match v with
  | .object _ attributes => (attributes.lookup "value").getD v
  | v => v

/-- What a value is compared with the names of levels by: its text, blanks and case aside. -/
def textOf (v : Value) : Except Failure String := (subject v).written.map fun text => Text.lower (Text.trim text)

/-- The error for a value that names no level. It shows the value. -/
def unknown (v : Value) : Failure :=
  match v.written with
  | .ok text => .configuration (.make .configuration ("Unknown logging level '" ++ text ++ "'") "INVALID_LOG_LEVEL"
    [("level", .text text), ("valid_levels", .list (all.map fun l => .text l.name))])
  | .error f => f

/-- The level that a value names. -/
def ofValue (v : Value) : Except Failure Level := do
  match ofName? (← textOf v) with
  | some l => return l
  | none => throw (unknown v)

/-- The same, if the value names one. -/
def ofValue? (v : Value) : Option Level := (ofValue v).toOption

/-- The level that a value names, or `info`. -/
def orInfo (v : Value) : Level := (ofValue? v).getD .info

/-- The level of a line that is to be written at a value: that which it names, or `info`. Where the text of the value
cannot be made there is none. -/
def ofLine (v : Value) : Except Failure Level :=
  match ofValue v with
  | .error (.configuration _) => .ok .info
  | read => read

theorem ofValue_of_textOf {v : Value} {text : String} (h : textOf v = .ok text) :
    ofValue v = match ofName? text with
      | some l => .ok l
      | none => .error (unknown v) := by
  rw [ofValue, h]
  show (match ofName? text with | some l => pure l | none => throw (unknown v)) = _
  cases ofName? text <;> rfl

theorem ofValue_of_textOf_error {v : Value} {f : Failure} (h : textOf v = .error f) : ofValue v = .error f := by
  rw [ofValue, h]
  rfl

theorem ofValue?_eq_some_iff {v : Value} {l : Level} : ofValue? v = some l ↔ ofValue v = .ok l := by
  unfold ofValue?
  cases ofValue v <;> simp [Except.toOption]

/-- A text has no failure but that it names no level. -/
theorem ofValue_text (text : String) : ofValue (.text text) = match ofValue? (.text text) with
    | some l => .ok l
    | none => .error (unknown (.text text)) := by
  have h : textOf (.text text) = .ok (Text.lower (Text.trim text)) := rfl
  unfold ofValue?
  rw [ofValue_of_textOf h]
  cases ofName? (Text.lower (Text.trim text)) <;> rfl

theorem ofLine_of_ofValue? {v : Value} {l : Level} (h : ofValue? v = some l) : ofLine v = .ok l := by
  rw [ofLine, ofValue?_eq_some_iff.1 h]

theorem eq_orInfo_of_ofLine {v : Value} {l : Level} (h : ofLine v = .ok l) : l = orInfo v := by
  unfold ofLine at h
  unfold orInfo ofValue?
  split at h
  · next hv =>
    rw [hv]
    exact (Except.ok.inj h).symm
  · rw [h]
    rfl

theorem ofName?_name (l : Level) : ofName? l.name = some l := by
  cases l <;> decide

end Level

/-- The names of thresholds and their numbers. -/
def thresholdNames : List (String × Nat) :=
  [("CRITICAL", 50), ("FATAL", 50), ("ERROR", 40), ("WARN", 30), ("WARNING", 30), ("INFO", 20), ("DEBUG", 10),
    ("NOTSET", 0)]

/-- The threshold that a name in capitals means. -/
def thresholdOf (name : String) : Except Failure Nat :=
  match thresholdNames.lookup name with
  | some n => .ok n
  | none => .error (.fault .value ("Unknown level: " ++ Text.quoted name))

end ActivityLog
