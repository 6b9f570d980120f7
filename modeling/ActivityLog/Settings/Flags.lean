import ActivityLog.Settings.Arguments
import ActivityLog.Settings.Group
import ActivityLog.Text.Identifier

/-!
# Settings from a command line

The entries of a group may hold the arguments of a command line with a flag for each field, and options that say how the
flags are named and what texts mean. `Flags.values` reads what the arguments give; it wins over all else.
-/

namespace ActivityLog.Settings.Flags

/-- How the flags of a group are named. -/
structure Naming where
  /-- What each name starts with, with the point after it. -/
  stem : String := ""
  /-- Whether words are joined by hyphens. -/
  hyphens : Bool := false
  /-- What marks a flag: once before a single character, twice before a longer name. -/
  mark : String := "-"
  /-- Further names of flags. -/
  shortcuts : List (String × List String) := []

/-- The name with its marks. -/
def Naming.marked (n : Naming) (name : String) : String :=
  let marks := (n.mark.toList ++ n.mark.toList).take (if Text.size name = 1 then 1 else 2)
  String.ofList (marks ++ name.toList)

/-- The name of the flag of a field, and its further names. -/
def Naming.names (n : Naming) (field : String) : List String :=
  let plain := if n.hyphens then String.ofList (field.toList.map fun c => if c == '_' then '-' else c) else field
  let name := n.stem ++ plain
  (name :: (n.shortcuts.filter fun s => s.1 == name).flatMap Prod.snd).map n.marked

/-- The name that says no, of a name that says yes. -/
def negative? (name : String) : Option String :=
  match name.toList with
  | '-' :: '-' :: rest => some (String.ofList ("--no-".toList ++ rest))
  | _ => none

/-- The flag of a field that is true or false and takes no text: it has names for both, or only says no. -/
def switch (field : String) (both : Bool) (names : List String) : Flag :=
  let yes := names.flatMap fun name => (name, "true") :: (negative? name).toList.map fun no => (no, "false")
  let no := names.map fun name => ((negative? name).getD name, "false")
  let gives := if both then yes else no
  ⟨gives.map Prod.fst, some field, gives⟩

/-- The flags of a group, and the one that asks for help. -/
def ofGroup (g : Group) (n : Naming) (implicit : Value) : List Flag :=
  let help := { n with mark := if n.mark.toList.contains '-' then "-" else String.ofList (n.mark.toList.take 1) }
  ⟨["h", "help"].map help.marked, none, []⟩ :: g.fields.map fun field =>
    if g.switches.contains field && implicit.truthy then
      switch field (!(implicit matches .text "toggle")) (n.names field)
    else ⟨n.names field, some field, []⟩

/-- What the names of flags start with. -/
def stemOf (v : Value) : Except Failure String :=
  match v with
  | .text s =>
    let cs := s.toList
    if cs.isEmpty then .ok ""
    else if cs.head? = some '.' ∨ cs.getLast? = some '.' ∨ !Text.isName (cs.filter (· != '.')) then
      .error (fault ("CLI settings source prefix is invalid: " ++ s))
    else .ok (s ++ ".")
  | v => if v.truthy then .error (.noAttribute v "startswith") else .ok ""

/-- Further names for one flag. -/
def namesOf : Value → Except Failure (List String)
  | .text s => .ok [s]
  | .list items => .ok (items.filterMap fun v => match v with
    | .text s => some s
    | _ => none)
  | .dict entries => .ok (entries.map Prod.fst)
  | v => .error (.fault .type ("'" ++ v.typeName ++ "' object is not iterable"))

/-- Further names of flags, by the name of each. -/
def shortcutsOf : Value → Except Failure (List (String × List String))
  | .dict entries => entries.mapM fun (name, v) => (namesOf v).map fun names => (name, names)
  | v => if v.truthy then .error (.noAttribute v "items") else .ok []

/-- What marks flags. -/
def markOf : Value → Except Failure String
  | .null => .ok "-"
  | .text "" => .error (.fault (.other "IndexError") "string index out of range")
  | .text s => .ok s
  | v => .error (.fault .type ("argument of type '" ++ v.typeName ++ "' is not iterable"))

/-- The arguments: none if nothing is to be read. -/
def argumentsOf : Value → Except Failure (Option (List Value))
  | .null => .ok none
  | .bool true => .ok (some [])
  | .list items => .ok (some items)
  | v =>
    let nothing := match v with
      | .bool false => true
      | .int n => n == 0
      | .float x => x.isZero
      | _ => false
    if nothing then .ok none
    else .error (fault ("cli_parse_args must be a list or tuple of strings, received <class '" ++ v.typeName ++ "'>"))

/-- The text of an argument. What is nothing counts as an empty text. -/
def argument : Value → Except Failure String
  | .text s => .ok s
  | v =>
    if v.truthy then
      .error (.fault .type ("expected string or bytes-like object, got '" ++ v.typeName ++ "'"))
    else .ok ""

/-- An argument with the name of its flag, which a mark starts, in small letters. -/
def lowerName (mark : Char) (s : String) : String :=
  match s.toList with
  | first :: c :: rest =>
    let inName (c : Char) : Bool := !(Text.isBlank c || c == '=')
    if first = mark ∧ inName c then
      let name := (c :: rest).takeWhile inName
      let after := (c :: rest).dropWhile inName
      Text.lower (String.ofList (first :: name)) ++ String.ofList after
    else s
  | _ => s

/-- The text that stands for no value. -/
def absent (option : String → Value) : String :=
  match option "_env_parse_none_str", option "_cli_parse_none_str" with
  | .text s, v =>
    if !s.isEmpty then s else
      match v with
      | .text t => if t.isEmpty then usual else t
      | _ => usual
  | _, .text t => if t.isEmpty then usual else t
  | _, _ => usual
where
  /-- The text unless an option says otherwise. -/
  usual : String := if (option "_cli_avoid_json").truthy then "None" else "null"

/-- The failure of a command line that ends early. -/
def ended (option : String → Value) : CommandLine.Stop → Failure
  | .help => leave 0
  | .wrong message =>
    let v := option "_cli_exit_on_error"
    if v.truthy || v matches .null then leave 2 else fault ("error parsing CLI: " ++ message)

/-- What the arguments give to fields. -/
def values (g : Group) (option : String → Value) : Except Failure (List (String × Value)) := do
  if option "_cli_parse_args" matches .null then return []
  let naming : Naming := {
    stem := ← stemOf (option "_cli_prefix")
    hyphens := (option "_cli_kebab_case").truthy
    mark := ← markOf (option "_cli_flag_prefix_char")
    shortcuts := ← shortcutsOf (option "_cli_shortcuts") }
  let flags := ofGroup g naming (option "_cli_implicit_flags")
  match ← argumentsOf (option "_cli_parse_args") with
  | none => return []
  | some items =>
    let texts ← items.mapM argument
    let anyCase := match option "_case_sensitive" with
      | .null | .bool false => true
      | _ => false
    let texts := if anyCase then texts.map (lowerName ((naming.mark.toList.head?).getD '-')) else texts
    match CommandLine.read flags naming.mark.toList texts with
    | .error stop => throw (ended option stop)
    | .ok outcome =>
      if !outcome.left.isEmpty && !(option "_cli_ignore_unknown_args").truthy then
        throw (ended option (.wrong ("unrecognized arguments: " ++ String.intercalate " " outcome.left)))
      return outcome.given.map fun (field, text) => (field, g.value true (some (absent option)) field text)

end ActivityLog.Settings.Flags
