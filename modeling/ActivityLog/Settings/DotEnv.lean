import ActivityLog.Json.Reader
import ActivityLog.Text.Blank

/-!
# Files of variables

A file of variables has lines `NAME=value`: an optional `export` before the name, values plain or in quotes, comments
after `#`. A line that fits nothing is passed over. `DotEnv.bindings` reads a file and puts the values of variables
in the place of `$` and a name in braces, perhaps with `:-` and a default; values of the file win over those of the
environment.
-/

namespace ActivityLog.DotEnv

/-- A line end. -/
def isBreak (c : Char) : Bool := c == '\n' || c == '\r'

/-- White space within a line. -/
def isGap (c : Char) : Bool := Text.isBlank c && !isBreak c

/-- The text after the current line. -/
def skipLine (cs : List Char) : List Char :=
  match cs.dropWhile fun c => !isBreak c with
  | [] => []
  | _ :: rest => rest

/-- The text without an `export` and the gap after it. -/
def skipExport (cs : List Char) : List Char :=
  let word := "export".toList
  if word.isPrefixOf cs then
    match cs.drop word.length with
    | c :: rest => if isGap c then rest.dropWhile isGap else cs
    | [] => cs
  else cs

/-- Reads a name: nothing before a comment, otherwise a name in single quotes or a plain one. The outcome is a fault,
or a name, if there is one, and the text after it. -/
def readName (cs : List Char) : Option (Option (List Char) × List Char) :=
  match cs with
  | '#' :: _ => some (none, cs)
  | '\'' :: rest =>
    let name := rest.takeWhile (· != '\'')
    match rest.dropWhile (· != '\'') with
    | _ :: after => if name.isEmpty then none else some (some name, after)
    | [] => none
  | _ =>
    let plain (c : Char) : Bool := !(c == '=' || c == '#' || Text.isBlank c)
    let name := cs.takeWhile plain
    if name.isEmpty then none else some (some name, cs.dropWhile plain)

/-- A quoted value and the text after it. A backslash takes the character after it along, so that character ends
nothing; without a closing quote there is no value. -/
def readQuoted (quote : Char) : List Char → Option (List Char × List Char)
  | [] => none
  | '\\' :: c :: rest => (readQuoted quote rest).map fun (value, after) => ('\\' :: c :: value, after)
  | c :: rest =>
    if c = quote then some ([], rest)
    else if c = '\\' then none
    else (readQuoted quote rest).map fun (value, after) => (c :: value, after)

/-- The character that an escape in double quotes means. -/
def escape? : Char → Option Char
  | '\\' => some '\\'
  | '\'' => some '\''
  | '"' => some '"'
  | 'a' => some '\x07'
  | 'b' => some '\x08'
  | 'f' => some '\x0c'
  | 'n' => some '\n'
  | 'r' => some '\r'
  | 't' => some '\t'
  | 'v' => some '\x0b'
  | _ => none

/-- A value with its escapes undone; unknown ones stay. -/
def unescape (known : Char → Option Char) : List Char → List Char
  | '\\' :: c :: rest =>
    match known c with
    | some e => e :: unescape known rest
    | none => '\\' :: unescape known (c :: rest)
  | c :: rest => c :: unescape known rest
  | [] => []

/-- The escapes of single quotes. -/
def singleEscape? (c : Char) : Option Char := if c = '\\' ∨ c = '\'' then some c else none

/-- A plain value without the comment after it: white space and `#` begin a comment. -/
def cutComment : List Char → List Char
  | [] => []
  | c :: rest =>
    if Text.isBlank c ∧ ((c :: rest).dropWhile Text.isBlank).head? = some '#' then []
    else c :: cutComment rest

/-- The text without the blanks at its end. -/
def dropBlanks (cs : List Char) : List Char := (cs.reverse.dropWhile Text.isBlank).reverse

/-- Reads a value after `=`. The gap before a plain value belongs to it as far as comments go: a comment may follow the
gap at once, and the value is then empty. -/
def readValue (cs : List Char) : Option (List Char × List Char) :=
  match cs.dropWhile isGap with
  | '\'' :: rest => (readQuoted '\'' rest).map fun (value, after) => (unescape singleEscape? value, after)
  | '"' :: rest => (readQuoted '"' rest).map fun (value, after) => (unescape escape? value, after)
  | _ =>
    let plain := dropBlanks (cutComment (cs.takeWhile fun c => !isBreak c))
    some (plain.dropWhile isGap, cs.dropWhile fun c => !isBreak c)

/-- The text after a comment and the end of the line, if nothing else stands there. -/
def finishLine (cs : List Char) : Option (List Char) :=
  let afterComment := match cs.dropWhile isGap with
    | '#' :: rest => rest.dropWhile fun c => !isBreak c
    | _ => cs
  match afterComment.dropWhile isGap with
  | [] => some []
  | c :: rest => if isBreak c then some rest else none

/-- One line: a name with its value, if the line has them, and the text after the line. A name without `=` has no
value. -/
def readLine (cs : List Char) : Option (String × Option String) × List Char :=
  let cs := skipExport cs
  match readName cs with
  | none => (none, skipLine cs)
  | some (name?, rest) =>
    let rest := rest.dropWhile isGap
    let valued : Option (Option String × List Char) × List Char := match rest with
      | '=' :: tail =>
        ((readValue tail).map fun (value, after) => (some (String.ofList value), after), tail)
      | _ => (some (none, rest), rest)
    match valued with
    | (none, tail) => (none, skipLine tail)
    | (some (value, after), _) =>
      match finishLine after with
      | some next => (name?.map fun name => (String.ofList name, value), next)
      | none => (none, skipLine (match after.dropWhile isGap with
        | '#' :: r => r.dropWhile fun c => !isBreak c
        | _ => after))

/-- The lines of a file; `fuel` bounds their number. -/
def readLines : Nat → List Char → List (String × Option String)
  | 0, _ => []
  | fuel + 1, cs =>
    match cs.dropWhile Text.isBlank with
    | [] => []
    | start =>
      match readLine start with
      | (some binding, rest) => binding :: readLines fuel rest
      | (none, rest) => readLines fuel rest

/-- The variable at the start of a text after `${`: its name, its default, and the text after it. -/
def assignment? (cs : List Char) : Option (String × String × List Char) :=
  let stop (c : Char) : Bool := c == '\x7d' || c == ':'
  let name := cs.takeWhile fun c => !stop c
  match cs.dropWhile fun c => !stop c with
  | '\x7d' :: rest => some (String.ofList name, "", rest)
  | ':' :: '-' :: rest =>
    match rest.dropWhile (· != '\x7d') with
    | _ :: after => some (String.ofList name, String.ofList (rest.takeWhile (· != '\x7d')), after)
    | [] => none
  | _ => none

/-- A value with variables replaced; `fuel` bounds its length. -/
def expand (known : List (String × Option String)) : Nat → List Char → List Char
  | 0, _ => []
  | fuel + 1, '$' :: '\x7b' :: rest =>
    match assignment? rest with
    | some (name, default, after) =>
      let value := match known.lookup name with
        | some v => v.getD ""
        | none => default
      value.toList ++ expand known fuel after
    | none => '$' :: expand known fuel ('\x7b' :: rest)
  | fuel + 1, c :: rest => c :: expand known fuel rest
  | _ + 1, [] => []

/-- Replaces variables line by line; earlier lines are known to later ones. -/
def resolve (environment : List (String × String)) :
    List (String × Option String) → List (String × Option String) → List (String × Option String)
  | _, [] => []
  | done, (name, value) :: rest =>
    let known := done ++ environment.reverse.map fun (k, v) => (k, some v)
    let value := value.map fun v => String.ofList (expand known (v.length + 1) v.toList)
    (name, value) :: resolve environment ((name, value) :: done) rest

/-- A text without the mark of its byte order, which may stand at its start. -/
def dropMark : List Char → List Char
  | '\uFEFF' :: rest => rest
  | cs => cs

/-- The variables of a file, in the order of its lines. -/
def bindings (environment : List (String × String)) (text : String) : List (String × Option String) :=
  let cs := Json.unifyLines (dropMark text.toList)
  resolve environment [] (readLines (cs.length + 1) cs)

end ActivityLog.DotEnv
