import ActivityLog.Descriptor.Document
import ActivityLog.Json.Reader
import ActivityLog.Settings.Variables
import ActivityLog.Text.UpperCase

/-!
# Settings

The settings of an application: how it logs and what it records of the network. They come from environment variables
with two name prefixes, whatever the case of their names. Two further variables, `LOGGING` and `NETWORK`, hold JSON
objects that win over the single variables and may say where those are; a file of variables in the working directory may
hold these two as well. `Settings.read` gathers them, and `Settings.read_empty` says what holds when nothing is set.
-/

namespace ActivityLog

/-- How log lines are written. -/
structure LoggingSettings where
  level : String := "INFO"
  format : String := "json"
  pattern : Option String := none
  deriving DecidableEq, Repr

/-- What is recorded of the network. -/
structure NetworkSettings where
  enabled : Bool := true
  level : String := "info"
  fieldConfigPath : Option String := none
  componentName : String := "netlog"
  layer : String := "[PY] NET"
  deriving DecidableEq, Repr

/-- All settings. -/
structure Settings where
  logging : LoggingSettings := {}
  network : NetworkSettings := {}
  deriving DecidableEq, Repr

namespace Settings

open Document

/-- One of the words that a setting may be. -/
def word (kind : String) (words : List String) (v : Value) : Checked String :=
  match v with
  | .text s =>
    if Text.hasHalves s then notUnicode else if words.contains s then .ok s else issue "enum" kind
  | _ => issue "enum" kind

/-- A text that may be absent. -/
def optionalText : Value → Checked (Option String)
  | .null => .ok none
  | v => (text v).map some

/-- The name of a level, in any case. -/
def levelWord (v : Value) : Checked String :=
  word "Input should be 'DEBUG', 'INFO', 'WARNING', 'ERROR' or 'CRITICAL'"
    ["DEBUG", "INFO", "WARNING", "ERROR", "CRITICAL"]
    (match v with
      | .text s => .text (Text.upper s)
      | v => v)

/-- Logging settings from the values of their fields. -/
def readLogging (values : OrderedMap Value) : Checked LoggingSettings :=
  let e := values.entries
  Checked.both (fun (l, f) p => ⟨l, f, p⟩)
    (Checked.both Prod.mk (Checked.optional e "level" "INFO" levelWord)
      (Checked.optional e "format" "json" (word "Input should be 'json' or 'console'" ["json", "console"])))
    (Checked.optional e "pattern" none optionalText)

/-- Network settings from the values of their fields. -/
def readNetwork (values : OrderedMap Value) : Checked NetworkSettings :=
  let e := values.entries
  Checked.both (fun (en, l) (p, c, y) => ⟨en, l, p, c, y⟩)
    (Checked.both Prod.mk (Checked.optional e "enabled" true truth) (Checked.optional e "level" "info" text))
    (Checked.both Prod.mk (Checked.optional e "field_config_path" none optionalText)
      (Checked.both Prod.mk (Checked.optional e "component_name" "netlog" text)
        (Checked.optional e "layer" "[PY] NET" text)))

/-- The logging group. -/
def loggingGroup : Group :=
  ⟨"logging", "NETLOG_LOG_", ["level", "format", "pattern"], "LoggingSettings",
    [("format", [("JSON", "json"), ("CONSOLE", "console")])], []⟩

/-- The network group. -/
def networkGroup : Group :=
  ⟨"network", "NETLOG_NETWORK_", ["enabled", "level", "field_config_path", "component_name", "layer"],
    "NetworkLogSettings", [], ["enabled"]⟩

/-- An object's members under the names of fields they match in any case. -/
def canonical (fields : List String) (entries : List (String × Value)) : OrderedMap Value :=
  .ofList (entries.map fun (k, v) => ((fields.find? fun f => Text.lower k == f).getD k, v))

/-- The JSON value that a variable holds; absent for no variable and for `null`. -/
def groupJson (g : Group) (text : Option String) : Except Failure Value :=
  match text with
  | none => .ok .null
  | some s =>
    match Json.readAll s.toList with
    | .ok (.dict entries) => .ok (.dict (canonical g.fields entries).entries)
    | .ok v => .ok v
    | .error ⟨.tooDeep array, _⟩ => .error (.fault (.other "RecursionError") (Json.Fault.tooDeep array).message)
    | .error _ => .error (.fault (.other "SettingsError") ("error parsing value for field \"" ++ g.name ++ "\""))

mutual

/-- Two values, the second one stronger: of two tables, the entries of both, also within entries. -/
def merge (weak : Value) : Value → Value
  | .dict strong =>
    match weak with
    | .dict entries => .dict (mergeEntries entries strong)
    | _ => .dict strong
  | v => v

/-- Entries of a table with stronger ones. -/
def mergeEntries (weak : List (String × Value)) : List (String × Value) → List (String × Value)
  | [] => weak
  | (name, v) :: rest =>
    let merged := match weak.lookup name with
      | some w => merge w v
      | none => v
    mergeEntries ((OrderedMap.mk weak).insert name merged).entries rest

end

/-- A group: from its own value over its variables if it has one, else from its variables alone. In the second case
what is wrong is reported for the group by itself. -/
def readGroup {α : Type} (g : Group) (environment : List (String × String)) (files : Files) (own : Value)
    (read : OrderedMap Value → Checked α) : Except Failure (Checked α) :=
  match own with
  | .null => ((groupValues g environment files []).bind fun values => orFail g.model (pure (read values))).map .ok
  | .dict entries =>
    within [.name g.name] (match groupValues g environment files entries with
      | .ok values => .ok (read values)
      | .error f =>
        match badValue? f with
        | some text => .ok (issue "value_error" ("Value error, " ++ text))
        | none => .error f)
  | _ =>
    .ok (Checked.within [.name g.name]
      (issue "model_type" ("Input should be a valid dictionary or instance of " ++ g.model)))

/-- The file of variables in the working directory. -/
def variablesFile : String := ".env"

/-- The settings that an environment and the files of the working directory make. -/
def gather (environment : List (String × String)) (files : Files) : Except Failure Settings := do
  let plain : Sources := { stem := some "", files := .text variablesFile }
  let set := plain.index (environment.map fun (name, text) => (name, some text))
  let filed ← plain.filed environment files
  let own (g : Group) : Except Failure Value := do
    let strong ← groupJson g ((set.get? g.name).getD none)
    let weak ← groupJson g ((filed.get? g.name).getD none)
    return if strong.isNull then weak else merge weak strong
  let logging ← own loggingGroup
  let network ← own networkGroup
  orFail "NetlogSettings"
    (both Settings.mk (readGroup loggingGroup environment files logging readLogging)
      (readGroup networkGroup environment files network readNetwork))

/-- The error for settings that cannot be read. -/
def initError (cause : Failure) : Failure :=
  .configuration { ConfigError.make .configuration ("Settings initialization failed: " ++ cause.text)
      "SETTINGS_INIT_ERROR" [("error_type", .text cause.kindName)] with
    issues := match cause with
      | .invalid _ issues => issues
      | _ => [] }

/-- Reads the settings. The end of the whole program is no error of the settings. -/
def read (environment : List (String × String)) (files : Files) : Except Failure Settings :=
  match gather environment files with
  | .ok s => .ok s
  | .error cause => .error (if isLeave cause then cause else initError cause)

/-- With nothing set, all settings have their defaults. -/
theorem read_empty : read [] [] = .ok {} := by rfl

end Settings

end ActivityLog
