import ActivityLog.Text.Hex
import ActivityLog.Text.Point

/-!
# Escapes in texts of bytes

A text of bytes may write code points by escapes after a backslash; all other bytes are characters of Latin-1. In the
full form there are short escapes, octal and hexadecimal numbers, in the raw form only two escapes by number.
`Escapes.decode` and `Escapes.decodeRaw` read such texts or say where and why they cannot. Main statement: without a
backslash every byte stands for itself (`decodeFrom_plain`).
-/

namespace ActivityLog.Text.Escapes

/-- What is wrong with an escape. -/
inductive Fault where
  /-- No character follows the backslash. -/
  | bare
  /-- A number has too few digits; the letter before it says how many it needs. -/
  | truncated (letter : Char)
  /-- There is no code point with this number. -/
  | beyond
  /-- There is no code point with this number, in the raw form. -/
  | beyondRaw
  /-- A name is not between braces. -/
  | malformedName
  /-- No character is known by this name. -/
  | unknownName
  deriving DecidableEq, Repr

/-- The wording of a fault. -/
def Fault.message : Fault → String
  | .bare => "\\ at end of string"
  | .truncated 'x' => "truncated \\xXX escape"
  | .truncated 'u' => "truncated \\uXXXX escape"
  | .truncated _ => "truncated \\UXXXXXXXX escape"
  | .beyond => "illegal Unicode character"
  | .beyondRaw => "\\Uxxxxxxxx out of range"
  | .malformedName => "malformed \\N character escape"
  | .unknownName => "unknown Unicode character name"

/-- The bytes of an escape that cannot be read: where they start, how many they are, and why. -/
structure Error where
  start : Nat
  width : Nat
  fault : Fault
  deriving DecidableEq, Repr

/-- What an escape is: the code points that it stands for and how many bytes follow the backslash, or a fault and how
many bytes up to it follow the backslash. -/
abbrev Escape := Except (Fault × Nat) (List Point × Nat)

/-- The value of so many hexadecimal digits, or how many of them there are. -/
def hexadecimal : Nat → Nat → Nat → List Nat → Except Nat Nat
  | 0, value, _, _ => .ok value
  | n + 1, value, count, b :: rest =>
    match hexValue? (Char.ofNat b) with
    | some d => hexadecimal n (value * 16 + d) (count + 1) rest
    | none => .error count
  | _ + 1, _, count, [] => .error count

/-- How many digits the number after a letter has. -/
def digitsOf? : Char → Option Nat
  | 'x' => some 2
  | 'u' => some 4
  | 'U' => some 8
  | _ => none

/-- An escape by a hexadecimal number of so many digits. -/
def byNumber (letter : Char) (digits : Nat) (outside : Fault) (rest : List Nat) : Escape :=
  match hexadecimal digits 0 0 rest with
  | .error count => .error (.truncated letter, count + 1)
  | .ok n => if 0x10FFFF < n then .error (outside, digits + 1) else .ok ([.ofNumber n], digits + 1)

/-- Up to three octal digits: their value and their number. -/
def octal (bytes : List Nat) : Nat × Nat :=
  let digits := (bytes.take 3).takeWhile fun b => Nat.ble 48 b && Nat.ble b 55
  (digits.foldl (fun n b => n * 8 + (b - 48)) 0, digits.length)

/-- The character that a short escape stands for. -/
def short? : Char → Option Char
  | '\\' => some '\\'
  | '\'' => some '\''
  | '"' => some '"'
  | 'b' => some '\x08'
  | 'f' => some '\x0c'
  | 't' => some '\t'
  | 'n' => some '\n'
  | 'r' => some '\r'
  | 'v' => some '\x0b'
  | 'a' => some '\x07'
  | _ => none

/-- An escape by the name of a character, of which none is known. -/
def byName (rest : List Nat) : Escape :=
  match rest with
  | 0x7B :: inner =>
    let name := inner.takeWhile (· != 0x7D)
    if name.length = inner.length then .error (.malformedName, inner.length + 2)
    else if name.isEmpty then .error (.malformedName, 2)
    else .error (.unknownName, name.length + 3)
  | _ => .error (.malformedName, 1)

/-- An escape of the full form. What is no escape stands for itself, the backslash as well. -/
def full : List Nat → Escape
  | [] => .error (.bare, 0)
  | b :: rest =>
    let c := Char.ofNat b
    if b = 0x0A then .ok ([], 1)
    else if 48 ≤ b ∧ b ≤ 55 then
      let (n, count) := octal (b :: rest)
      .ok ([.ofNumber n], count)
    else if c = 'N' then byName rest
    else match short? c, digitsOf? c with
      | some plain, _ => .ok ([.char plain], 1)
      | none, some digits => byNumber c digits .beyond rest
      | none, none => .ok ([.char '\\', .char c], 1)

/-- An escape of the raw form. A backslash after a backslash starts none. -/
def raw : List Nat → Escape
  | [] => .ok ([.char '\\'], 0)
  | b :: rest =>
    let c := Char.ofNat b
    if c = 'u' ∨ c = 'U' then byNumber c ((digitsOf? c).getD 0) .beyondRaw rest
    else .ok ([.char '\\', .char c], 1)

/-- Reads a text with escapes of a form from a position on. -/
def decodeFrom (escape : List Nat → Escape) (position : Nat) : List Nat → Except Error (List Point)
  | [] => .ok []
  | b :: rest =>
    if b = 0x5C then
      match escape rest with
      | .ok (ps, n) => (decodeFrom escape (position + 1 + n) (rest.drop n)).map (ps ++ ·)
      | .error (fault, n) => .error ⟨position, n + 1, fault⟩
    else (decodeFrom escape (position + 1) rest).map (.ofNumber b :: ·)
termination_by bytes => bytes.length
decreasing_by all_goals simp only [List.length_drop, List.length_cons]; omega

/-- Reads a text with escapes of the full form. -/
def decode (bytes : List Nat) : Except Error (List Point) := decodeFrom full 0 bytes

/-- Reads a text with escapes of the raw form. -/
def decodeRaw (bytes : List Nat) : Except Error (List Point) := decodeFrom raw 0 bytes

/-- Without a backslash every byte stands for itself. -/
theorem decodeFrom_plain {escape : List Nat → Escape} {bytes : List Nat} (h : ∀ b ∈ bytes, b ≠ 0x5C)
    (position : Nat) : decodeFrom escape position bytes = .ok (bytes.map .ofNumber) := by
  induction bytes generalizing position with
  | nil => simp [decodeFrom]
  | cons b rest ih =>
    rw [decodeFrom, if_neg (h b (by simp)), ih fun d hd => h d (by simp [hd])]
    rfl

end ActivityLog.Text.Escapes
