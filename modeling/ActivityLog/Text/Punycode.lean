import ActivityLog.Text.LowerCase
import ActivityLog.Text.Point
import ActivityLog.Text.Quoted
import ActivityLog.Text.Ranges

/-!
# Punycode

A text in ASCII that says where other characters belong: the ASCII characters, a hyphen, and numbers in digits of 36
values, one for each further character. Names of domains have parts that are written so (`Domain.decode`). Main
statement: text without further characters is read as it is (`insertAll_nil`).
-/

namespace ActivityLog.Text.Punycode

/-- What is wrong with a text. -/
inductive Fault where
  /-- A byte is not ASCII: it, and its place. -/
  | notAscii (byte place : Nat)
  /-- A number does not end. -/
  | incomplete
  /-- A character is no digit. -/
  | badDigit (c : Char)
  /-- There is no code point with this number. -/
  | beyond (n : Nat)
  /-- No name of a domain has this code point. -/
  | refused (p : Point)
  /-- A part of a domain is empty or too long. -/
  | badLength
  /-- A part of a domain is no Punycode. -/
  | within (f : Fault)
  /-- The part is not how its text would be written. -/
  | notRound (given made : List UInt8)
  deriving DecidableEq, Repr

/-- The least value of a digit that may stand last at a place of a number. -/
def threshold (place bias : Nat) : Nat := min 26 (max 1 (36 * (place + 1) - bias))

/-- The value of a digit, given in capitals. -/
def digit? (c : Char) : Option Nat :=
  if 'A' ≤ c ∧ c ≤ 'Z' then some (c.toNat - 65)
  else if '0' ≤ c ∧ c ≤ '9' then some (c.toNat - 22)
  else none

/-- The digit with a value, in small letters. -/
def digitChar (n : Nat) : Char := if n < 26 then Char.ofNat (97 + n) else Char.ofNat (22 + n)

/-- Reads a number from a place on, with the value and the weight so far: it and the characters after it. -/
def readNumber (bias value weight place : Nat) : List Char → Except Fault (Nat × List Char)
  | [] => .error .incomplete
  | c :: rest =>
    match digit? c with
    | none => .error (.badDigit c)
    | some d =>
      let t := threshold place bias
      let value := value + d * weight
      if d < t then .ok (value, rest) else readNumber bias value (weight * (36 - t)) (place + 1) rest

/-- How often a number is divided until it is small, and what is left. -/
def divisions (fuel n : Nat) : Nat × Nat :=
  match fuel with
  | 0 => (0, n)
  | fuel + 1 => if n ≤ 455 then (0, n) else let (times, left) := divisions fuel (n / 35); (times + 1, left)

/-- The bias after a number. -/
def adapt (delta : Nat) (first : Bool) (length : Nat) : Nat :=
  let halved := if first then delta / 700 else delta / 2
  let delta := halved + halved / length
  let (times, left) := divisions delta delta
  36 * times + 36 * left / (left + 38)

/-- Where reading is: the text so far, the number of the last character, the place after it, and the bias. -/
structure State where
  text : List Point
  code : Nat := 0x80
  next : Nat := 0
  bias : Nat := 72
  first : Bool := true

/-- The state after a further character, by the number that says where it belongs. -/
def State.insert (s : State) (delta : Nat) : Except Fault State :=
  let size := s.text.length + 1
  let place := s.next + delta
  let code := s.code + place / size
  if 0x10FFFF < code then .error (.beyond code)
  else
    let place := place % size
    .ok {
      text := s.text.take place ++ Point.ofNumber code :: s.text.drop place
      code
      next := place + 1
      bias := adapt delta s.first size
      first := false }

/-- Reads the numbers and puts the characters where they belong. The fuel bounds the numbers. -/
def insertAll (fuel : Nat) (s : State) (cs : List Char) : Except Fault (List Point) :=
  match fuel, cs with
  | _, [] => .ok s.text
  | 0, _ => .ok s.text
  | fuel + 1, cs =>
    match readNumber s.bias 0 1 0 cs with
    | .error f => .error f
    | .ok (delta, rest) =>
      match s.insert delta with
      | .error f => .error f
      | .ok s => insertAll fuel s rest

/-- Without numbers the text stays as it is. -/
theorem insertAll_nil (fuel : Nat) (s : State) : insertAll fuel s [] = .ok s.text := by
  cases fuel <;> rfl

/-- The characters of bytes of ASCII. -/
def ascii (bytes : List Nat) : Except Fault (List Char) :=
  match bytes.findIdx? (0x80 ≤ ·) with
  | some i => .error (.notAscii (bytes.getD i 0) i)
  | none => .ok (bytes.map Char.ofNat)

/-- The code points that bytes spell: those before the last hyphen, and those that the numbers after it put in. -/
def decode (bytes : List Nat) : Except Fault (List Point) := do
  let digits := (bytes.reverse.takeWhile (· != 0x2D)).reverse
  let base ← ascii (bytes.take (bytes.length - digits.length - 1))
  let digits := (← ascii digits).map Char.toUpper
  insertAll digits.length { text := base.map .char } digits

/-- The digits of a number, by the least value that may stand last at each place. -/
def writeNumber (fuel bias place n : Nat) : List Char :=
  let t := threshold place bias
  match fuel with
  | 0 => []
  | fuel + 1 =>
    if n < t then [digitChar n]
    else digitChar (t + (n - t) % (36 - t)) :: writeNumber fuel bias (place + 1) ((n - t) / (36 - t))

/-- Where writing is: the digits so far, the number that is to be written next, the bias, and how many characters are
written. -/
structure Written where
  digits : List Char := []
  delta : Nat := 0
  bias : Nat := 72
  count : Nat
  first : Bool := true

/-- Looks at one code point while those with a number are written. -/
def Written.pass (code : Nat) (w : Written) (n : Nat) : Written :=
  if n < code then { w with delta := w.delta + 1 }
  else if n = code then {
    digits := w.digits ++ writeNumber (w.delta + 1) w.bias 0 w.delta
    delta := 0
    bias := adapt w.delta w.first (w.count + 1)
    count := w.count + 1
    first := false }
  else w

/-- The ASCII that code points are written with. -/
def encode (ps : List Point) : List Char :=
  let numbers := ps.map Point.number
  let base := numbers.filter (· < 0x80)
  let others := ((numbers.filter (0x80 ≤ ·)).mergeSort (· ≤ ·)).eraseDups
  let (_, written) := others.foldl (fun (last, w) code =>
    let w : Written := { w with delta := w.delta + (code - last) * (w.count + 1) }
    let w := numbers.foldl (Written.pass code) w
    (code + 1, { w with delta := w.delta + 1 })) (0x80, { count := base.length : Written })
  let digits := written.digits
  if base.isEmpty then digits else base.map Char.ofNat ++ '-' :: digits

namespace Domain

/-- Characters that names of domains leave out. -/
def silentRanges : CodeRanges :=
  [(0xAD, 0xAD), (0x34F, 0x34F), (0x1806, 0x1806), (0x180B, 0x180D), (0x200B, 0x200D), (0x2060, 0x2060),
    (0xFE00, 0xFE0F), (0xFEFF, 0xFEFF)]

/-- Code points beyond ASCII that no name of a domain has. -/
def refusedRanges : CodeRanges :=
  [(0x80, 0xA0), (0x340, 0x341), (0x6DD, 0x6DD), (0x70F, 0x70F), (0x1680, 0x1680), (0x180E, 0x180E),
    (0x2000, 0x200F), (0x2028, 0x202F), (0x205F, 0x2063), (0x206A, 0x206F), (0x2FF0, 0x2FFB), (0x3000, 0x3000),
    (0xD800, 0xF8FF), (0xFDD0, 0xFDEF), (0xFEFF, 0xFEFF), (0xFFF9, 0xFFFF), (0x1D173, 0x1D17A),
    (0x1FFFE, 0x1FFFF), (0x2FFFE, 0x2FFFF), (0x3FFFE, 0x3FFFF), (0x4FFFE, 0x4FFFF), (0x5FFFE, 0x5FFFF),
    (0x6FFFE, 0x6FFFF), (0x7FFFE, 0x7FFFF), (0x8FFFE, 0x8FFFF), (0x9FFFE, 0x9FFFF), (0xAFFFE, 0xAFFFF),
    (0xBFFFE, 0xBFFFF), (0xCFFFE, 0xCFFFF), (0xDFFFE, 0xDFFFF), (0xE0001, 0xE0001), (0xE0020, 0xE007F),
    (0xEFFFE, 0x10FFFF)]

/-- A code point as names of domains have it. -/
def folded (p : Point) : List Point :=
  if silentRanges.contains p.number then []
  else match p with
    | .char 'ß' => [.char 's', .char 's']
    | .char 'ς' => [.char 'σ']
    | .char c => (lowerList [c]).map .char
    | p => [p]

/-- How a part of a domain is written. -/
def encode (ps : List Point) : Except Fault (List Char) :=
  let measured (cs : List Char) : Except Fault (List Char) :=
    if cs.isEmpty || Nat.ble 64 cs.length then .error .badLength else .ok cs
  if ps.all fun p => Nat.blt p.number 0x80 then measured (ps.filterMap Point.char?)
  else
    let ps := ps.flatMap folded
    if let some p := ps.find? fun p => refusedRanges.contains p.number then .error (.refused p)
    else if ps.all fun p => Nat.blt p.number 0x80 then measured (ps.filterMap Point.char?)
    else measured ("xn--".toList ++ Punycode.encode ps)

/-- The code points of a part of a domain. -/
def decodePart (part : List Nat) : Except Fault (List Point) := do
  let cs := part.map Char.ofNat
  if "xn--".toList.isPrefixOf cs then
    let ps ← (Punycode.decode (part.drop 4)).mapError .within
    let made ← encode ps
    let bytes (cs : List Char) : List UInt8 := cs.map fun c => UInt8.ofNat c.toNat
    if cs.map Char.toLower = made then return ps else throw (.notRound (bytes cs) (bytes made))
  else return cs.map .char

/-- The parts of a domain between points. -/
def parts : List Nat → List (List Nat)
  | [] => [[]]
  | 0x2E :: rest => [] :: parts rest
  | b :: rest =>
    match parts rest with
    | part :: more => (b :: part) :: more
    | [] => [[b]]

/-- The code points of a domain. -/
def decode (bytes : List Nat) : Except Fault (List Point) := do
  let _ ← ascii bytes
  let texts ← (parts bytes).mapM fun part => if part.isEmpty then .ok [] else decodePart part
  return List.intercalate [.char '.'] texts

end Domain

/-- The wording of a fault; a byte that is not ASCII has none here. -/
def Fault.message : Fault → String
  | .notAscii _ _ => "ordinal not in range(128)"
  | .incomplete => "incomplete punicode string"
  | .badDigit c => "Invalid extended code point '" ++ ofChars [c] ++ "'"
  | .beyond n => "Invalid character U+" ++ hex 1 n
  | .refused p => "Invalid character " ++ quoted (single p)
  | .badLength => "label empty or too long"
  | .within f => "decoding with 'punycode' codec failed (UnicodeError: " ++ f.message ++ ")"
  | .notRound given made =>
    "('IDNA does not round-trip', " ++ quotedBytes given ++ ", " ++ quotedBytes made ++ ")"

end ActivityLog.Text.Punycode
