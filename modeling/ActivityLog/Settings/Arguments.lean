import ActivityLog.Failure
import ActivityLog.Text.Blank
import ActivityLog.Text.Identifier
import ActivityLog.Text.LowerCase
import ActivityLog.Text.Word

/-!
# Command lines

A command line has flags with texts (`--name text` or `--name=text`), flags that take none, and words that belong to no
flag. `--` ends the flags. `CommandLine.read` reads one: what the flags give, and the words left over. Main statement:
words that are no flags are left over (`readParts_plain`).
-/

namespace ActivityLog

/-- A flag: its names, the field that it sets, and if it takes no text, the texts that its names give. A flag that sets
no field asks for help. -/
structure Flag where
  names : List String
  field : Option String
  gives : List (String × String) := []

namespace Flag

/-- Whether a text goes with the flag. -/
def takesText (f : Flag) : Bool := f.field.isSome && f.gives.isEmpty

/-- How a flag is named in what is said about it. -/
def title (f : Flag) : String := "argument " ++ String.intercalate "/" f.names

end Flag

namespace CommandLine

/-- What ends the reading of a command line. -/
inductive Stop where
  /-- Help is asked for. -/
  | help
  /-- The arguments are not as the flags want them. -/
  | wrong (message : String)
  deriving DecidableEq, Repr

/-- What an argument is. -/
inductive Part where
  /-- A word of its own. -/
  | plain (text : String)
  /-- What ends the flags. -/
  | ending
  /-- A name of a flag, perhaps with characters after it in the same argument and perhaps with `=` before them. -/
  | named (flag : Flag) (name : String) (joined : Bool) (text : Option (List Char))
  /-- Something like a flag that is none. -/
  | unknown (text : String)

/-- What is read: texts for fields in the order in which they are given, and the words left over. -/
structure Outcome where
  given : List (String × String) := []
  left : List String := []
  deriving DecidableEq, Repr

/-- What is read with one more word left over before it. -/
def Outcome.leave (word : String) (o : Outcome) : Outcome := { o with left := word :: o.left }

/-- The flag with a name. -/
def flag? (flags : List Flag) (name : String) : Option Flag := flags.find? fun f => f.names.contains name

/-- Whether digits make up a text, which may have a line end behind it. -/
def areDigits (cs : List Char) : Bool :=
  match cs.span Text.isAnyDigit with
  | ([], _) => false
  | (_, []) | (_, ['\n']) => true
  | _ => false

/-- Whether an argument looks like a number below zero. -/
def isNegative (cs : List Char) : Bool :=
  match cs with
  | '-' :: number =>
    areDigits number ||
      match number.dropWhile Text.isAnyDigit with
      | '.' :: places => areDigits places
      | _ => false
  | _ => false

/-- What an argument is before the end of the flags, which start with one of the marks. -/
def part (flags : List Flag) (marks : List Char) (argument : String) : Part :=
  let cs := argument.toList
  let text := cs.dropWhile (· != '=')
  let name := String.ofList (cs.takeWhile (· != '='))
  let short := String.ofList (cs.take 2)
  let number : Bool := isNegative cs && !(flags.any fun f => f.names.any fun n => isNegative n.toList)
  match cs with
  | first :: second :: _ =>
    if !marks.contains first then .plain argument
    else match flag? flags argument, (if text.isEmpty then none else flag? flags name) with
      | some f, _ => .named f argument false none
      | none, some f => .named f name true (some (text.drop 1))
      | none, none =>
        match if marks.contains second then none else flag? flags short with
        | some f => .named f short false (some (cs.drop 2))
        | none => if number || cs.contains ' ' then .plain argument else .unknown argument
  | _ => .plain argument

/-- What the arguments are. -/
def parts (flags : List Flag) (marks : List Char) : List String → List Part
  | [] => []
  | "--" :: rest => .ending :: rest.map .plain
  | argument :: rest => part flags marks argument :: parts flags marks rest

/-- What a flag gives with a text. -/
def give (f : Flag) (text : String) : List (String × String) := f.field.toList.map fun field => (field, text)

/-- What a flag gives under one of its names if it takes no text. -/
def take (f : Flag) (name : String) : Except Stop (List (String × String)) :=
  match f.field with
  | none => .error .help
  | some field => .ok [(field, (f.gives.lookup name).getD "")]

/-- The flags of one argument: those that take no text, with their names; after them one with a text, or one that waits
for it, or characters that are no flag. -/
structure Cluster where
  bare : List (Flag × String) := []
  full : List (Flag × String) := []
  waiting : Option Flag := none
  left : List String := []

/-- What a cluster gives, with a text for the flag that waits for one. -/
def Cluster.given (c : Cluster) (text : String) : Except Stop (List (String × String)) := do
  let bare ← c.bare.mapM fun (f, name) => take f name
  return bare.flatten ++ (c.full.flatMap fun (f, t) => give f t) ++ c.waiting.toList.flatMap fun f => give f text

/-- A cluster of one flag without characters after its name. -/
def Cluster.ofFlag (f : Flag) (name : String) : Cluster :=
  if f.takesText then { waiting := some f } else { bare := [(f, name)] }

/-- A cluster after a flag that takes no text. -/
def Cluster.after (f : Flag) (name : String) (c : Cluster) : Cluster := { c with bare := (f, name) :: c.bare }

/-- The fault of a flag that takes no text and has one. -/
def ignored (f : Flag) (text : List Char) : Stop :=
  .wrong (f.title ++ ": ignored explicit argument " ++ Text.quoted (String.ofList text))

/-- The flag that a character names after the name of a flag that takes no text. Only names with one mark go together,
and neither `=` nor a mark may stand between them. -/
def next? (flags : List Flag) (marks : List Char) (f : Flag) (name : String) (joined : Bool) (c : Char)
    (text : List Char) : Except Stop (String × Option Flag) :=
  match name.toList with
  | first :: second :: _ =>
    if marks.contains second || joined || marks.contains c then .error (ignored f text)
    else .ok (String.ofList [first, c], flag? flags (String.ofList [first, c]))
  | _ => .error (ignored f text)

/-- The flags of an argument: a flag with the characters after its name, which are its text if it takes one. -/
def cluster (flags : List Flag) (marks : List Char) (f : Flag) (name : String) (joined : Bool) :
    List Char → Except Stop Cluster
  | [] => if f.takesText then .ok { full := [(f, "")] } else .error (ignored f [])
  | c :: rest => do
    if f.takesText then return { full := [(f, String.ofList (c :: rest))] }
    let (other, found) ← next? flags marks f name joined c (c :: rest)
    match found, rest with
    | none, _ =>
      return { bare := [(f, name)], left := [String.ofList (other.toList ++ rest)] }
    | some g, [] => return (Cluster.ofFlag g other).after f name
    | some g, '=' :: text => return (← cluster flags marks g other true text).after f name
    | some g, text => return (← cluster flags marks g other false text).after f name

/-- The flags of an argument that may have nothing after the name. -/
def clusterOf (flags : List Flag) (marks : List Char) (f : Flag) (name : String) (joined : Bool) :
    Option (List Char) → Except Stop Cluster
  | none => .ok (.ofFlag f name)
  | some text => cluster flags marks f name joined text

/-- Reads the parts of a command line in order; the flags of an earlier argument may wait for a text. -/
def readParts (flags : List Flag) (marks : List Char) (waiting : Option Cluster) : List Part → Except Stop Outcome
  | [] =>
    match waiting.bind Cluster.waiting with
    | some f => .error (.wrong (f.title ++ ": expected one argument"))
    | none => .ok {}
  | part :: rest =>
    match waiting.bind Cluster.waiting, part with
    | some _, .plain text => do
      let given ← (waiting.getD {}).given text
      let after ← readParts flags marks none rest
      return { after with given := given ++ after.given }
    | some f, _ => .error (.wrong (f.title ++ ": expected one argument"))
    | none, .named f name joined text => do
      let c ← clusterOf flags marks f name joined text
      if c.waiting.isSome then readParts flags marks (some c) rest
      else
        let given ← c.given ""
        let after ← readParts flags marks none rest
        return { given := given ++ after.given, left := c.left ++ after.left }
    | none, .plain text => (readParts flags marks none rest).map (Outcome.leave text)
    | none, .unknown text => (readParts flags marks none rest).map (Outcome.leave text)
    | none, .ending => (readParts flags marks none rest).map (Outcome.leave "--")

/-- Reads a command line whose flags start with one of the marks. -/
def read (flags : List Flag) (marks : List Char) (arguments : List String) : Except Stop Outcome :=
  readParts flags marks none (parts flags marks arguments)

/-- Words that are no flags are left over. -/
theorem readParts_plain (flags : List Flag) (marks : List Char) (words : List String) :
    readParts flags marks none (words.map .plain) = .ok { left := words } := by
  induction words with
  | nil => rfl
  | cons w ws ih => simp [readParts, ih, Except.map, Outcome.leave]

end CommandLine

end ActivityLog
