/-!
# Hexadecimal digits

Numbers as lower-case hexadecimal digits of a fixed least width, and the way back.
-/

namespace ActivityLog.Text

/-- The lower-case hexadecimal digits of a number, at least `width` of them. -/
def hexList (width n : Nat) : List Char :=
  let digits := Nat.toDigits 16 n
  List.replicate (width - digits.length) '0' ++ digits

/-- The digits as a text. -/
def hex (width n : Nat) : String := String.ofList (hexList width n)

/-- The value of a hexadecimal digit, of either case. -/
def hexValue? (c : Char) : Option Nat :=
  if '0' ≤ c ∧ c ≤ '9' then some (c.toNat - 48)
  else if 'a' ≤ c ∧ c ≤ 'f' then some (c.toNat - 87)
  else if 'A' ≤ c ∧ c ≤ 'F' then some (c.toNat - 55)
  else none

/-- The bytes that pairs of hexadecimal digits name. -/
def bytesOfHex? : List Char → Option (List UInt8)
  | [] => some []
  | [_] => none
  | h :: l :: rest => do
    let high ← hexValue? h
    let low ← hexValue? l
    let bytes ← bytesOfHex? rest
    return (UInt8.ofNat (high * 16 + low)) :: bytes

/-- The bytes as pairs of hexadecimal digits. -/
def hexOfBytes (bytes : List UInt8) : String :=
  String.ofList (bytes.flatMap fun b => hexList 2 b.toNat)

/-- At least `width` digits are written. -/
theorem width_le_length_hexList (width n : Nat) : width ≤ (hexList width n).length := by
  simp only [hexList, List.length_append, List.length_replicate]
  omega

end ActivityLog.Text
