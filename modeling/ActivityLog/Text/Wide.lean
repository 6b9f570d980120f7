/-!
# Texts in wide units

UTF-16 has one unit of two bytes for a character, or two units for a character beyond the first plane; UTF-32 has one
unit of four bytes. The bytes of a unit stand in either order. `Wide.decodePairs` and `Wide.decodeFours` read a text or
say where and why the first bytes that fit no character stand. Main statement: an odd number of bytes is never UTF-16
(`even_of_decodePairs`).
-/

namespace ActivityLog.Text.Wide

/-- The order of the bytes of a unit. -/
inductive Order where
  /-- The lowest byte comes first. -/
  | little
  /-- The highest byte comes first. -/
  | big
  deriving DecidableEq, Repr

/-- Why bytes are no text in wide units. -/
inductive Fault where
  /-- The bytes end within a unit. -/
  | truncated
  /-- The bytes end after the first unit of a pair. -/
  | unfinished
  /-- The second unit of a pair stands alone. -/
  | loneSecond
  /-- No second unit follows the first one. -/
  | loneFirst
  /-- The unit is half a pair, which UTF-32 does not have. -/
  | half
  /-- There is no character with this number. -/
  | beyond
  deriving DecidableEq, Repr

/-- The bytes that fit no character: where they start and how many they are. -/
structure Error where
  start : Nat
  width : Nat
  fault : Fault

/-- The number that bytes make in an order. -/
def number (order : Order) (bytes : List UInt8) : Nat :=
  let digits := match order with
    | .little => bytes.reverse
    | .big => bytes
  digits.foldl (fun n b => n * 256 + b.toNat) 0

/-- Whether a unit is the first one of a pair. -/
def isFirst (unit : Nat) : Bool := Nat.ble 0xD800 unit && Nat.blt unit 0xDC00

/-- Whether a unit is the second one of a pair. -/
def isSecond (unit : Nat) : Bool := Nat.ble 0xDC00 unit && Nat.blt unit 0xE000

/-- The character of a pair of units. -/
def paired (first second : Nat) : Char :=
  Char.ofNat (0x10000 + (first - 0xD800) * 0x400 + (second - 0xDC00))

/-- Reads UTF-16 from a position of the input on. -/
def decodePairs (order : Order) (position : Nat) : List UInt8 → Except Error (List Char)
  | [] => .ok []
  | [_] => .error ⟨position, 1, .truncated⟩
  | a :: b :: rest =>
    let unit := number order [a, b]
    if isSecond unit then .error ⟨position, 2, .loneSecond⟩
    else if isFirst unit then
      match rest with
      | c :: d :: more =>
        let second := number order [c, d]
        if isSecond second then (decodePairs order (position + 4) more).map (paired unit second :: ·)
        else .error ⟨position, 2, .loneFirst⟩
      | _ => .error ⟨position, 2 + rest.length, .unfinished⟩
    else (decodePairs order (position + 2) rest).map (Char.ofNat unit :: ·)

/-- Reads UTF-32 from a position of the input on. -/
def decodeFours (order : Order) (position : Nat) : List UInt8 → Except Error (List Char)
  | [] => .ok []
  | a :: b :: c :: d :: rest =>
    let unit := number order [a, b, c, d]
    if isFirst unit || isSecond unit then .error ⟨position, 4, .half⟩
    else if 0x110000 ≤ unit then .error ⟨position, 4, .beyond⟩
    else (decodeFours order (position + 4) rest).map (Char.ofNat unit :: ·)
  | bytes => .error ⟨position, bytes.length, .truncated⟩

/-- The wording of a fault. -/
def Fault.message : Fault → String
  | .truncated => "truncated data"
  | .unfinished => "unexpected end of data"
  | .loneSecond => "illegal encoding"
  | .loneFirst => "illegal UTF-16 surrogate"
  | .half => "code point in surrogate code point range(0xd800, 0xe000)"
  | .beyond => "code point not in range(0x110000)"

theorem ok_of_map_cons {ε α : Type} {r : Except ε (List α)} {a : α} {as : List α}
    (h : r.map (a :: ·) = .ok as) : ∃ rest, r = .ok rest := by
  cases r with
  | ok rest => exact ⟨rest, rfl⟩
  | error e => cases h

/-- UTF-16 has two bytes for each unit. -/
theorem even_of_decodePairs {order : Order} {position : Nat} {bytes : List UInt8} {cs : List Char}
    (h : decodePairs order position bytes = .ok cs) : bytes.length % 2 = 0 := by
  fun_induction decodePairs order position bytes generalizing cs with
  | case1 => rfl
  | case2 => cases h
  | case3 => cases h
  | case4 =>
    rename_i ih
    obtain ⟨rest, hr⟩ := ok_of_map_cons h
    have := ih hr
    simp only [List.length_cons]
    omega
  | case5 => cases h
  | case6 => cases h
  | case7 =>
    rename_i ih
    obtain ⟨tail, hr⟩ := ok_of_map_cons h
    have := ih hr
    simp only [List.length_cons]
    omega

end ActivityLog.Text.Wide
