import ActivityLog.Decimal.Numeral
import ActivityLog.Text.Hex
import ActivityLog.Text.Point
import ActivityLog.Value

/-!
# Reading JSON documents

`Json.readAll` reads a text as one JSON value and says what is wrong, and in which line, when it is none. Beside
standard JSON it takes `NaN` and the infinities. Of members with one name the last value stays, at the place of the
first. The text left to read is a list of characters; a fault is placed by how much was left.
-/

namespace ActivityLog.Json

/-- What keeps a text from being JSON. -/
inductive Fault where
  | expectedValue
  | expectedName
  | expectedColon
  | expectedComma
  | extraData
  | unterminatedText
  | controlCharacter
  | unknownEscape
  | brokenUnicodeEscape
  | byteOrderMark
  /-- Arrays or objects nested beyond the limit. -/
  | tooDeep (array : Bool)
  /-- A whole number of more digits than are read. -/
  | tooLong (digits : Nat)
  deriving DecidableEq, Repr

/-- The wording of a fault. -/
def Fault.message : Fault → String
  | .expectedValue => "Expecting value"
  | .expectedName => "Expecting property name enclosed in double quotes"
  | .expectedColon => "Expecting ':' delimiter"
  | .expectedComma => "Expecting ',' delimiter"
  | .extraData => "Extra data"
  | .unterminatedText => "Unterminated string starting at"
  | .controlCharacter => "Invalid control character at"
  | .unknownEscape => "Invalid \\escape"
  | .brokenUnicodeEscape => "Invalid \\uXXXX escape"
  | .byteOrderMark => "Unexpected UTF-8 BOM (decode using utf-8-sig)"
  | .tooDeep array =>
    "maximum recursion depth exceeded while decoding a JSON " ++ (if array then "array" else "object") ++
      " from a unicode string"
  | .tooLong digits =>
    "Exceeds the limit (4300 digits) for integer string conversion: value has " ++ toString digits ++
      " digits; use sys.set_int_max_str_digits() to increase the limit"

/-- A fault and how many characters were left where it was found. -/
structure Error where
  fault : Fault
  left : Nat

/-- A step of reading: a result and the text left, or a fault. -/
abbrev Step (α : Type) := Except Error (α × List Char)

/-- How deep arrays and objects may be nested. -/
def depthLimit : Nat := 994

/-- How many digits a whole number may have. -/
def digitLimit : Nat := 4300

/-- A fault before the given rest of the text. -/
def failAt {α : Type} (fault : Fault) (cs : List Char) : Except Error α := .error ⟨fault, cs.length⟩

/-- White space of JSON. -/
def isSpace (c : Char) : Bool := c == ' ' || c == '\t' || c == '\n' || c == '\r'

/-- The text from the next character that is no white space. -/
def skipSpace (cs : List Char) : List Char := cs.dropWhile isSpace

/-- The value of four hexadecimal digits. -/
def hex4? (a b c d : Char) : Option Nat := do
  let a ← Text.hexValue? a
  let b ← Text.hexValue? b
  let c ← Text.hexValue? c
  let d ← Text.hexValue? d
  return ((a * 16 + b) * 16 + c) * 16 + d

/-- The characters that a backslash and one letter stand for. -/
def shortEscape? : Char → Option Char
  | '"' => some '"'
  | '\\' => some '\\'
  | '/' => some '/'
  | 'b' => some '\x08'
  | 'f' => some '\x0c'
  | 'n' => some '\n'
  | 'r' => some '\r'
  | 't' => some '\t'
  | _ => none

/-- Reads the part of an escape after `\u`: the code point, and how many characters it takes. A character must follow
the digits. Two units that make a pair are one character, if more than the second of them follows. -/
def readUnit : List Char → Except Fault (Text.Point × Nat)
  | a :: b :: c :: d :: next :: rest =>
    match hex4? a b c d with
    | none => .error .brokenUnicodeEscape
    | some high =>
      if 0xD800 ≤ high ∧ high < 0xDC00 then
        match next, rest with
        | '\\', 'u' :: e :: f :: g :: h :: _ :: _ =>
          match hex4? e f g h with
          | none => .error .brokenUnicodeEscape
          | some low =>
            if 0xDC00 ≤ low ∧ low < 0xE000 then
              .ok (.ofNumber (0x10000 + (high - 0xD800) * 0x400 + (low - 0xDC00)), 10)
            else .ok (.ofNumber high, 4)
        | _, _ => .ok (.ofNumber high, 4)
      else .ok (.ofNumber high, 4)
  | _ => .error .brokenUnicodeEscape

/-- Reads the part of an escape after the backslash: the code point, and how many characters it takes. -/
def readEscape : List Char → Except Fault (Text.Point × Nat)
  | [] => .error .unterminatedText
  | 'u' :: rest => (readUnit rest).map fun (p, n) => (p, n + 1)
  | c :: _ => match shortEscape? c with
    | some e => .ok (.char e, 1)
    | none => .error .unknownEscape

/-- Reads a text up to its closing quote; it may have halves of pairs. `opened` is what was left at the opening quote,
`done` holds the characters read so far, the latest first. -/
def readText (opened : Nat) (done cs : List Char) : Step String :=
  match cs with
  | [] => .error ⟨.unterminatedText, opened⟩
  | '"' :: rest => .ok (String.ofList done.reverse, rest)
  | '\\' :: rest =>
    match readEscape rest with
    | .ok (p, n) => readText opened (p.spelled.reverse ++ done) (rest.drop n)
    | .error .unterminatedText => .error ⟨.unterminatedText, opened⟩
    | .error fault => failAt fault rest
  | c :: rest =>
    if c.toNat < 32 then failAt .controlCharacter (c :: rest) else readText opened (c :: done) rest
termination_by cs.length
decreasing_by all_goals simp only [List.length_drop, List.length_cons]; omega

/-- The fraction of a numeral, if a point and a digit follow. -/
def readFraction : List Char → Option (List Char) × List Char
  | '.' :: rest =>
    match rest with
    | c :: _ => if c.isDigit then let (ds, rest) := Numeral.spanDigits rest; (some ds, rest) else (none, '.' :: rest)
    | [] => (none, ['.'])
  | cs => (none, cs)

/-- The exponent of a numeral, if its mark, perhaps a sign, and a digit follow. -/
def readExponent (cs : List Char) : Option Int × List Char :=
  match cs with
  | e :: rest =>
    if e = 'e' ∨ e = 'E' then
      let (negative, tail) := match rest with
        | '-' :: tail => (true, tail)
        | '+' :: tail => (false, tail)
        | tail => (false, tail)
      let (ds, left) := Numeral.spanDigits tail
      if ds.isEmpty then (none, cs)
      else (some (if negative then -(Numeral.natOf ds : Int) else Numeral.natOf ds), left)
    else (none, cs)
  | [] => (none, [])

/-- Reads a numeral from its digits on. `start` is the text from the sign on. -/
def readNumber (negative : Bool) (start cs : List Char) : Step Value :=
  let (whole, rest) := match cs with
    | '0' :: rest => (['0'], rest)
    | cs => Numeral.spanDigits cs
  if whole.isEmpty then failAt .expectedValue start
  else
    let (fraction, rest) := readFraction rest
    let (exponent, rest) := readExponent rest
    match fraction, exponent with
    | none, none =>
      if digitLimit < whole.length then failAt (.tooLong whole.length) start
      else
        let n := (Numeral.natOf whole : Int)
        .ok (.int (if negative then -n else n), rest)
    | _, _ => .ok (.float (Numeral.Parts.toBinary64 ⟨negative, whole, fraction.getD [], exponent.getD 0⟩), rest)

/-- The words of JSON and of numbers beyond it. -/
def readWord (cs : List Char) : Step Value :=
  let words : List (String × Value) :=
    [("null", .null), ("true", .bool true), ("false", .bool false), ("NaN", .float .nan),
      ("Infinity", .float (.infinite false)), ("-Infinity", .float (.infinite true))]
  match words.find? fun w => w.1.toList.isPrefixOf cs with
  | some (w, v) => .ok (v, cs.drop w.length)
  | none =>
    match cs with
    | '-' :: rest => readNumber true cs rest
    | _ => readNumber false cs cs

mutual

/-- Reads one value; `fuel` bounds the number of values inside, `depth` counts the arrays and objects around. -/
def readValue (fuel depth : Nat) (cs : List Char) : Step Value :=
  match fuel with
  | 0 => failAt .expectedValue cs
  | fuel + 1 =>
    match cs with
    | '"' :: rest => (readText cs.length [] rest).map fun (text, rest) => (.text text, rest)
    | '[' :: rest =>
      if depthLimit ≤ depth then failAt (.tooDeep true) cs
      else match skipSpace rest with
        | ']' :: rest => .ok (.list [], rest)
        | rest => (readItems fuel (depth + 1) [] rest).map fun (items, rest) => (.list items, rest)
    | '\x7b' :: rest =>
      if depthLimit ≤ depth then failAt (.tooDeep false) cs
      else match skipSpace rest with
        | '\x7d' :: rest => .ok (.dict [], rest)
        | rest =>
          (readMembers fuel (depth + 1) [] rest).map fun (members, rest) =>
            (.dict (OrderedMap.ofList members).entries, rest)
    | _ => readWord cs

/-- Reads the items of an array, the ones read so far in reverse. -/
def readItems (fuel depth : Nat) (done : List Value) (cs : List Char) : Step (List Value) :=
  match fuel with
  | 0 => failAt .expectedValue cs
  | fuel + 1 =>
    match readValue fuel depth cs with
    | .error e => .error e
    | .ok (v, rest) =>
      match skipSpace rest with
      | ']' :: rest => .ok ((v :: done).reverse, rest)
      | ',' :: rest => readItems fuel depth (v :: done) (skipSpace rest)
      | rest => failAt .expectedComma rest

/-- Reads the members of an object, the ones read so far in reverse. -/
def readMembers (fuel depth : Nat) (done : List (String × Value)) (cs : List Char) : Step (List (String × Value)) :=
  match fuel with
  | 0 => failAt .expectedName cs
  | fuel + 1 =>
    match cs with
    | '"' :: rest =>
      match readText cs.length [] rest with
      | .error e => .error e
      | .ok (name, rest) =>
        match skipSpace rest with
        | ':' :: rest =>
          match readValue fuel depth (skipSpace rest) with
          | .error e => .error e
          | .ok (v, rest) =>
            match skipSpace rest with
            | '\x7d' :: rest => .ok (((name, v) :: done).reverse, rest)
            | ',' :: rest => readMembers fuel depth ((name, v) :: done) (skipSpace rest)
            | rest => failAt .expectedComma rest
        | rest => failAt .expectedColon rest
    | _ => failAt .expectedName cs

end

/-- Reads a whole document. -/
def readAll (cs : List Char) : Except Error Value :=
  match cs with
  | '\uFEFF' :: _ => failAt .byteOrderMark cs
  | _ =>
    match readValue (cs.length + 1) 0 (skipSpace cs) with
    | .error e => .error e
    | .ok (v, rest) =>
      match skipSpace rest with
      | [] => .ok v
      | rest => failAt .extraData rest

/-- The number of the line where a fault was found. -/
def Error.line (e : Error) (cs : List Char) : Nat :=
  ((cs.take (cs.length - e.left)).filter (· == '\n')).length + 1

/-- Line ends of every kind become line feeds. -/
def unifyLines : List Char → List Char
  | '\r' :: '\n' :: rest => '\n' :: unifyLines rest
  | '\r' :: rest => '\n' :: unifyLines rest
  | c :: rest => c :: unifyLines rest
  | [] => []

end ActivityLog.Json
