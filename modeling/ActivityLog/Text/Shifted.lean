import ActivityLog.Text.Point
import ActivityLog.Text.Wide

/-!
# Shifted texts

UTF-7 writes most of ASCII as it is and other characters in sections: a plus sign, the units of UTF-16 in digits of six
bits, and perhaps a hyphen, which belongs to the section. A plus sign and a hyphen alone mean a plus sign.
A unit that is half a pair may stand alone.
`Shifted.decode` reads such a text, or says where and why the first bytes that fit no code point stand.
-/

namespace ActivityLog.Text.Shifted

/-- Why bytes are no shifted text. -/
inductive Fault where
  /-- The byte is none of ASCII. -/
  | special
  /-- No digit follows the plus sign. -/
  | illFormed
  /-- A section ends within a unit. -/
  | partialUnit
  /-- The bits after the last unit of a section are not all zero. -/
  | padding
  /-- The bytes end within a unit. -/
  | unterminated
  deriving DecidableEq, Repr

/-- The bytes that fit no character: where they start and how many they are. -/
structure Error where
  start : Nat
  width : Nat
  fault : Fault

/-- A section that has begun: where it starts, the bits that are no unit yet and their number, and the first unit of a
pair that waits for the second. -/
structure Part where
  start : Nat
  bits : Nat := 0
  count : Nat := 0
  first : Option Nat := none

/-- The value of a digit of six bits. -/
def digit? (b : UInt8) : Option Nat :=
  let n := b.toNat
  if 65 ≤ n ∧ n ≤ 90 then some (n - 65)
  else if 97 ≤ n ∧ n ≤ 122 then some (n - 71)
  else if 48 ≤ n ∧ n ≤ 57 then some (n + 4)
  else if n = 43 then some 62
  else if n = 47 then some 63
  else none

/-- A section after a further digit, and the code points that are complete with it. -/
def Part.push (p : Part) (digit : Nat) : Part × List Point :=
  let bits := p.bits * 64 + digit
  let count := p.count + 6
  if count < 16 then ({ p with bits, count }, [])
  else
    let unit := bits / Nat.pow 2 (count - 16)
    let left : Part := { p with bits := bits % Nat.pow 2 (count - 16), count := count - 16, first := none }
    match p.first with
    | some first =>
      if Wide.isSecond unit then (left, [.char (Wide.paired first unit)])
      else if Wide.isFirst unit then ({ left with first := some unit }, [.ofNumber first])
      else (left, [.ofNumber first, .ofNumber unit])
    | none => if Wide.isFirst unit then ({ left with first := some unit }, []) else (left, [.ofNumber unit])

/-- What is wrong with a section where it ends. -/
def Part.fault? (p : Part) : Option Fault :=
  if 6 ≤ p.count then some .partialUnit else if p.bits ≠ 0 then some .padding else none

/-- Where reading is: outside of sections, after a plus sign at a position, or within a section. -/
inductive Mode where
  | plain
  | opened (start : Nat)
  | inside (part : Part)

/-- Reads a byte outside of sections. -/
def readPlain (position : Nat) (b : UInt8) : Except Error (Mode × List Point) :=
  if 128 ≤ b.toNat then .error ⟨position, 1, .special⟩
  else if b = 43 then .ok (.opened position, [])
  else .ok (.plain, [.ofNumber b.toNat])

/-- Reads a byte within a section. A byte that is no digit ends it. -/
def readInside (position : Nat) (p : Part) (b : UInt8) : Except Error (Mode × List Point) :=
  match digit? b, p.fault? with
  | some d, _ =>
    let (next, read) := p.push d
    .ok (.inside next, read)
  | none, some fault => .error ⟨p.start, position + 1 - p.start, fault⟩
  | none, none =>
    let lone := if Nat.blt b.toNat 128 then (p.first.map Point.ofNumber).toList else []
    if b = 45 then .ok (.plain, lone)
    else (readPlain position b).map fun (mode, read) => (mode, lone ++ read)

/-- Reads a byte. -/
def readByte (position : Nat) (b : UInt8) : Mode → Except Error (Mode × List Point)
  | .plain => readPlain position b
  | .opened start =>
    if b = 45 then .ok (.plain, [.char '+'])
    else if (digit? b).isSome then readInside position { start } b
    else .error ⟨start, 2, .illFormed⟩
  | .inside part => readInside position part b

/-- Reads from a position of the input on. -/
def decodeFrom (position : Nat) (mode : Mode) : List UInt8 → Except Error (List Point)
  | [] =>
    match mode with
    | .inside p =>
      if p.first.isSome || p.fault?.isSome then .error ⟨p.start, position - p.start, .unterminated⟩ else .ok []
    | _ => .ok []
  | b :: rest =>
    match readByte position b mode with
    | .error e => .error e
    | .ok (next, read) => (decodeFrom (position + 1) next rest).map (read ++ ·)

/-- The code points that the bytes spell. -/
def decode (bytes : List UInt8) : Except Error (List Point) := decodeFrom 0 .plain bytes

/-- The wording of a fault. -/
def Fault.message : Fault → String
  | .special => "unexpected special character"
  | .illFormed => "ill-formed sequence"
  | .partialUnit => "partial character in shift sequence"
  | .padding => "non-zero padding bits in shift sequence"
  | .unterminated => "unterminated shift sequence"

end ActivityLog.Text.Shifted
