import ActivityLog.Failure

/-!
# Groups of settings

A group of settings has fields, each with a value that may be given as a text. `Group.value` reads such a text where a
text stands for no value and the members of a field may go by their names.
-/

namespace ActivityLog.Settings

/-- A group of settings: its name, the stem of its variables, its fields, its model, for a field with named values
the values by their names, and the fields that are true or false. -/
structure Group where
  name : String
  stem : String
  fields : List String
  model : String
  named : List (String × List (String × String)) := []
  switches : List String := []

/-- The value of a field as a text gives it, where `absent` stands for no value. -/
def Group.value (g : Group) (byName : Bool) (absent : Option String) (field text : String) : Value :=
  let member := if byName then ((g.named.lookup field).getD []).lookup text else none
  match member with
  | some v => .text v
  | none => if absent = some text then .null else .text text

/-- The fault of a setting that cannot be made out. -/
def fault (message : String) : Failure := .fault (.other "SettingsError") message

/-- The wording of a fault that a bad value caused. Other faults have none. -/
def badValue? : Failure → Option String
  | .fault .value text => some text
  | .fault (.other kind) text =>
    if ["SettingsError", "UnicodeDecodeError", "UnicodeError"].contains kind then some text else none
  | _ => none

/-- What may follow a fault: the end of the whole program with a status. -/
def leave (status : Nat) : Failure := .fault (.other "SystemExit") (toString status)

/-- Whether a failure ends the program. -/
def isLeave : Failure → Bool
  | .fault (.other kind) _ => kind == "SystemExit"
  | _ => false

end ActivityLog.Settings
