import ActivityLog.Descriptor.File
import ActivityLog.OrderedMap
import ActivityLog.Settings.DotEnv
import ActivityLog.Settings.Encoding
import ActivityLog.Settings.Flags
import ActivityLog.Value.Items

/-!
# Where the values of a group are

A group of settings takes the values of its fields from single variables: those of the environment, then those of files
of variables, then files of a folder that are named like variables. The entries of a group may say with options how its
variables are named and where they are (`Sources.ofOptions`), and may hold a command line, which is stronger than all
else. `Sources.gather` reads them all. Main statement: where no variable is set, no field has a value (`pick_none`).
-/

namespace ActivityLog.Settings

/-- How the variables of a group are named and where they are. -/
structure Sources where
  /-- What the names of all variables start with; absent if the stem that was given joins no name. -/
  stem : Option String
  /-- Whether the names of fields' variables start so. -/
  stemmed : Bool := true
  /-- Whether the case of names matters. -/
  exactCase : Bool := false
  /-- Whether empty variables count as absent. -/
  ignoreEmpty : Bool := false
  /-- The text that stands for no value. -/
  absent : Option String := none
  /-- Whether values may be given by their names. -/
  byName : Bool := false
  /-- What says which files of variables there are. -/
  files : Value := .null
  /-- What says how these files are encoded. -/
  encoding : Value := .null
  /-- What says which folders hold a file for each variable. -/
  folders : Value := .null

/-- The paths that a value names: one text, or several. -/
def paths : Value → Except Failure (List String)
  | .null => .ok []
  | .text s => .ok [s]
  | .list items => items.mapM ConfigFile.path
  | .dict entries => .ok (entries.map Prod.fst)
  | v => .error (.fault .type ("'" ++ v.typeName ++ "' object is not iterable"))

/-- The text that bytes spell in the encoding of an option; no option means UTF-8. -/
def decode (encoding : Value) (bytes : List UInt8) : Except Failure String :=
  if encoding.truthy then
    match encoding with
    | .text name => do (← Encoding.ofName name).decode bytes
    | v => .error (.fault .type ("open() argument 'encoding' must be str or None, not " ++ v.typeName))
  else Utf8.text bytes

/-- The files of a folder: their own names and what they hold. -/
def folderFiles (all : Files) (folder : String) : Files :=
  let start := if folder = "." then [] else folder.toList ++ ['/']
  all.filterMap fun (name, bytes) =>
    let cs := name.toList
    if start.isPrefixOf cs then
      let own := cs.drop start.length
      if own.contains '/' then none else some (String.ofList own, bytes)
    else none

namespace Sources

/-- Where the variables of a group are unless options say otherwise. -/
def ofGroup (g : Group) : Sources := { stem := some g.stem }

/-- The stem that an option gives. A number has no length, so it is refused at once. -/
def stemOf (g : Group) : Value → Except Failure (Option String)
  | .null => .ok (some g.stem)
  | .text s => .ok (some s)
  | .list _ => .ok none
  | .dict _ => .ok none
  | v => .error (.fault .type ("object of type '" ++ v.typeName ++ "' has no len()"))

/-- The parts that a value is made of, if it is made of parts. -/
def partsOf? : Value → Option (List Value)
  | .list items => some items
  | .text s => some (Value.letters s)
  | .dict entries => some (entries.map fun e => .text e.1)
  | _ => none

/-- Looks at places that are given as a pair in the place of all others: nothing is read if there are none. -/
def givenPlaces (pair : Value) : Except Failure Unit :=
  match partsOf? pair with
  | some [first, _] => if first.truthy then .error (.fault .type "no place to read from") else .ok ()
  | some [] => .error (.fault .value "not enough values to unpack (expected 2, got 0)")
  | some [_] => .error (.fault .value "not enough values to unpack (expected 2, got 1)")
  | some _ => .error (.fault .value "too many values to unpack (expected 2)")
  | none => .error (.fault .type ("cannot unpack non-iterable " ++ pair.typeName ++ " object"))

/-- A limit for the parts of a name is a number. -/
def checkLimit (v : Value) : Except Failure Unit :=
  match v with
  | .int _ | .float _ | .bool _ => .ok ()
  | v => if v.truthy then .error (.fault .type ("unsupported operand type(s) for -: '" ++ v.typeName ++ "' and 'int'"))
    else .ok ()

/-- Where the variables of a group are by its options. -/
def ofOptions (g : Group) (option : String → Value) : Except Failure Sources := do
  checkLimit (option "_env_nested_max_split")
  let stem ← stemOf g (option "_env_prefix")
  return {
    stem
    stemmed := match option "_env_prefix_target" with
      | .null => true
      | .text s => s == "variable" || s == "all"
      | _ => false
    exactCase := (option "_case_sensitive").truthy
    ignoreEmpty := (option "_env_ignore_empty").truthy
    absent := match option "_env_parse_none_str" with
      | .text s => some s
      | _ => none
    byName := (option "_env_parse_enums").truthy
    files := option "_env_file"
    encoding := option "_env_file_encoding"
    folders := option "_secrets_dir" }

/-- A name as the place of variables knows it. -/
def fold (s : Sources) (name : String) : String := if s.exactCase then name else Text.lower name

/-- Variables under their names; of equal names the last one stays. -/
def index (s : Sources) (entries : List (String × Option String)) : OrderedMap (Option String) :=
  .ofList ((entries.filter fun v => !(s.ignoreEmpty && v.2 == some "")).map fun (name, value) => (s.fold name, value))

/-- The name of the variable of a field. -/
def nameOf? (s : Sources) (field : String) : Option String :=
  if s.stemmed then s.stem.map fun stem => s.fold (stem ++ field) else some (s.fold field)

/-- The values of the fields that have variables. -/
def pick (s : Sources) (g : Group) (place : String) (find : String → Option String) :
    Except Failure (List (String × Value)) :=
  match g.fields.mapM fun f => (s.nameOf? f).map fun name => (f, name) with
  | none =>
    .error (fault ("error getting value for field \"" ++ (g.fields.headD "") ++ "\" from source \"" ++ place ++ "\""))
  | some names =>
    .ok (names.filterMap fun (f, name) => (find name).map fun text => (f, g.value s.byName s.absent f text))

theorem nameOf?_eq_some {s : Sources} {stem : String} (h : s.stem = some stem) (field : String) :
    ∃ name, s.nameOf? field = some name := by
  by_cases hs : s.stemmed = true <;> simp [nameOf?, h, hs]

/-- Where no variable is set, no field has a value. -/
theorem pick_none {s : Sources} {stem : String} (h : s.stem = some stem) (g : Group) (place : String) :
    s.pick g place (fun _ => none) = .ok [] := by
  have named : ∀ fields : List String,
      ∃ names, (fields.mapM fun f => (s.nameOf? f).map fun name => (f, name)) = some names := by
    intro fields
    induction fields with
    | nil => exact ⟨[], rfl⟩
    | cons f fs ih =>
      obtain ⟨names, hnames⟩ := ih
      obtain ⟨name, hname⟩ := nameOf?_eq_some h f
      exact ⟨(f, name) :: names, by simp [List.mapM_cons, hname, hnames]⟩
  obtain ⟨names, hnames⟩ := named g.fields
  simp [pick, hnames]

/-- The variables of the files that an option names; files that are not there are passed over. Of equal names in one
file the last one stays. -/
def filed (s : Sources) (environment : List (String × String)) (files : Files) :
    Except Failure (OrderedMap (Option String)) := do
  let texts ← (← paths s.files).filterMapM fun path =>
    match files.lookup (ConfigFile.normalize path) with
    | none => pure none
    | some bytes => (decode s.encoding bytes).map some
  return .ofList (texts.flatMap fun text =>
    (s.index (OrderedMap.ofList (DotEnv.bindings environment text)).entries).entries)

/-- The values that files give by variables which are those of no field: under the name of the variable, without the
stem if it starts with that. -/
def further (s : Sources) (g : Group) (filed : OrderedMap (Option String)) (values : OrderedMap Value) :
    Except Failure (OrderedMap Value) :=
  let used := g.fields.filterMap s.nameOf?
  filed.entries.foldlM (fun values (name, text) =>
    let known : Bool := (values.get? name).isSome || (s.stem != some "" && g.fields.contains name) || used.contains name
    match text with
    | none | some "" => .ok values
    | some text =>
      if known then .ok values
      else match s.stem with
        | none => .error (.fault .type "startswith first arg must be str or a tuple of str, not list")
        | some stem =>
          let own := if stem.toList.isPrefixOf name.toList then String.ofList (name.toList.drop stem.length) else name
          .ok (values.insert own (.text text))) values

/-- The folders that an option names and that are there. A file is no folder. -/
def existingFolders (s : Sources) (files : Files) : Except Failure (List String) := do
  let named := (← paths s.folders).map ConfigFile.normalize
  if named.any fun path => (files.lookup path).isSome then
    throw (fault "secrets_dir must reference a directory, not a file")
  return named

/-- What the file for a variable holds, blanks at its ends left out. The last folder is the strongest. -/
def secret? (s : Sources) (files : Files) (folders : List String) (name : String) : Option String :=
  folders.reverse.findSome? fun folder =>
    ((folderFiles files folder).find? fun f => s.fold f.1 == name).map fun f => Text.trim (Utf8.decodeLossy f.2)

/-- The values that a command line, the entries of a group and its variables give to its fields. -/
def gather (s : Sources) (g : Group) (option : String → Value) (environment : List (String × String))
    (files : Files) (entries : List (String × Value)) : Except Failure (OrderedMap Value) := do
  let set := s.index (environment.map fun (name, text) => (name, some text))
  let filed ← s.filed environment files
  let strongest ← Flags.values g option
  let strong ← s.pick g "EnvSettingsSource" fun name => (set.get? name).join
  let weak ← s.pick g "DotEnvSettingsSource" fun name => (filed.get? name).join
  let weak ← s.further g filed (.ofList weak)
  let folders ← s.existingFolders files
  let weakest ← if folders.isEmpty then pure []
    else s.pick g "SecretsSettingsSource" (s.secret? files folders)
  return ((((OrderedMap.ofList weakest).insertAll weak.entries).insertAll strong).insertAll entries).insertAll strongest

end Sources

/-- The values of the fields of a group: its own entries over those of its variables. -/
def groupValues (g : Group) (environment : List (String × String)) (files : Files) (entries : List (String × Value)) :
    Except Failure (OrderedMap Value) :=
  let option (name : String) : Value := (entries.lookup name).getD .null
  if (entries.lookup "__pydantic_self__").isSome then
    .error (.fault .type ("BaseSettings.__init__() got multiple values for argument '__pydantic_self__'"))
  else match option "_build_sources" with
    | .null => do (← Sources.ofOptions g option).gather g option environment files entries
    | pair => (Sources.givenPlaces pair).map fun _ => .ofList []

end ActivityLog.Settings
