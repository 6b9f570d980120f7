import ActivityLog.Descriptor.Document
import ActivityLog.Failure.Encoding
import ActivityLog.Json.Reader

/-!
# Field configurations in files

A field configuration may be kept in a file as a JSON object with the lists `pre` and `post`. Reading such a file
fails with an error that names it, unless its bytes are no UTF-8, a number in it is too long, or it is nested too
deeply: those faults are passed on as they are.
-/

namespace ActivityLog

/-- Files by name. -/
abbrev Files := List (String × List UInt8)

/-- What a file holds. The empty device is always there. -/
def Files.read? (files : Files) (path : String) : Option (List UInt8) :=
  if path = "/dev/null" then some [] else files.lookup path

namespace ConfigFile

/-- The parts of a path between slashes. -/
def parts : List Char → List (List Char)
  | [] => [[]]
  | '/' :: rest => [] :: parts rest
  | c :: rest =>
    match parts rest with
    | part :: more => (c :: part) :: more
    | [] => [[c]]

/-- The root that a path starts from: exactly two slashes are kept, any other number counts as one. -/
def root (cs : List Char) : List Char :=
  match (cs.takeWhile (· == '/')).length with
  | 0 => []
  | 2 => ['/', '/']
  | _ => ['/']

/-- A path in its shortest form: empty parts and single points left out. -/
def normalize (path : String) : String :=
  let cs := path.toList
  let kept := (parts cs).filter fun p => !(p.isEmpty || p == ['.'])
  let body := List.intercalate ['/'] kept
  match root cs, body with
  | [], [] => "."
  | r, b => String.ofList (r ++ b)

/-- An error about a file. -/
def error (path message : String) (more : List (String × Value) := []) (issues : List Issue := []) : Failure :=
  .configuration { ConfigError.field message (("path", .text path) :: more) with issues }

/-- The failure for a text that is no JSON. -/
def jsonFailure (path : String) (cs : List Char) (e : Json.Error) : Failure :=
  match e.fault with
  | .tooDeep _ => .fault (.other "RecursionError") e.fault.message
  | .tooLong _ => .fault .value e.fault.message
  | fault =>
    error path ("Field configuration '" ++ path ++ "' is not valid JSON: " ++ fault.message)
      [("line", .int (e.line cs))]

/-- Whether half a pair stands for a byte of a file's name that is no part of UTF-8. -/
def isByte (p : Text.Point) : Bool := p.isHalf && Nat.ble 0xDC80 p.number && Nat.ble p.number 0xDCFF

/-- The fault of a path that cannot be written as bytes, from a position of it on. -/
def unwritable? (position : Nat) : List Text.Point → Option Failure
  | [] => none
  | p :: rest =>
    if p.isHalf && !isByte p then
      some (.unencodable "utf-8" p position (position + (rest.takeWhile Text.Point.isHalf).length)
        "surrogates not allowed")
    else unwritable? (position + 1) rest

/-- The fault of a path that no file can have. -/
def pathFault? (path : String) : Option Failure :=
  (unwritable? 0 (Text.pointsOf path)).orElse fun _ =>
    if path.toList.contains '\x00' then some (.fault .value "embedded null byte") else none

/-- The value that a file holds. -/
def readDocument (files : Files) (path : String) : Except Failure Value :=
  match pathFault? path with
  | some f => .error f
  | none => match files.read? path with
    | none => .error (error path ("Cannot read field configuration '" ++ path ++ "'"))
    | some bytes =>
      match Utf8.text bytes with
      | .error f => .error f
      | .ok text =>
        let cs := Json.unifyLines text.toList
        match Json.readAll cs with
        | .error e => .error (jsonFailure path cs e)
        | .ok v => .ok v

/-- The error about a file whose document does not fit. -/
def unfit (path : String) (issues : List Issue) : Failure :=
  error path ("Invalid field configuration '" ++ path ++ "': " ++ toString issues.length ++ " error(s)") [] issues

/-- The field configuration that a document describes, in a file of the given name. -/
def ofDocument {m : Type → Type} [Monad m] [MonadExceptOf Failure m] (resolve : Document.Resolver m) (path : String) :
    Value → m FieldConfig
  | .dict entries => Document.orThrow (unfit path) (Document.config resolve (.dict entries))
  | _ => throw (error path ("Field configuration '" ++ path ++ "' must be an object with 'pre' and 'post' lists"))

end ConfigFile

/-- A fault of the file system. -/
def ConfigFile.fault (kind : String) (number : Nat) (text path : String) : Failure :=
  .fault (.other kind) ("[Errno " ++ toString number ++ "] " ++ text ++ ": " ++ Text.quoted path)

/-- Puts a file into the working directory, which has no folders of its own. -/
def Files.write (files : Files) (path : String) (bytes : List UInt8) : Except Failure Files :=
  let path := ConfigFile.normalize path
  match ConfigFile.parts path.toList with
  | first :: _ :: _ =>
    if first.isEmpty || first == ['.', '.'] then .ok ((path, bytes) :: files)
    else if (files.lookup (String.ofList first)).isSome then
      .error (ConfigFile.fault "NotADirectoryError" 20 "Not a directory" path)
    else .error (ConfigFile.fault "FileNotFoundError" 2 "No such file or directory" path)
  | _ =>
    if path = "." || path = ".." then .error (ConfigFile.fault "IsADirectoryError" 21 "Is a directory" path)
    else .ok ((path, bytes) :: files)

/-- A path given as a value. -/
def ConfigFile.path : Value → Except Failure String
  | .text s => .ok s
  | .bytes _ =>
    .error (.fault .type
      "argument should be a str object or an os.PathLike object returning str, not <class 'bytes'>")
  | v => .error (.fault .type ("expected str, bytes or os.PathLike object, not " ++ v.typeName))

/-- Loads a field configuration from a file. -/
def FieldConfig.load {m : Type → Type} [Monad m] [MonadExceptOf Failure m] (resolve : Document.Resolver m)
    (files : Files) (path : String) : m FieldConfig :=
  let path := ConfigFile.normalize path
  match ConfigFile.readDocument files path with
  | .error f => throw f
  | .ok v => ConfigFile.ofDocument resolve path v

end ActivityLog
