import ActivityLog.Text.Point

/-!
# Latin-1

Latin-1 has one byte for each of the first 256 characters. `encode` writes a text, or names the first run of code points
without bytes. `decode` reads any bytes. Main statement: what was written reads back (`decodeList_of_encodeFrom`).
-/

namespace ActivityLog.Latin1

open Text (Point)

/-- A run of code points that have no bytes: the positions of its first and its last one, and the first one. -/
structure Unwritable where
  first : Nat
  last : Nat
  point : Point

/-- Whether a code point has no byte. -/
def isBeyond (p : Point) : Bool := Nat.blt 255 p.number

/-- The bytes of code points that start at a position of the text. -/
def encodeFrom (position : Nat) : List Point → Except Unwritable (List UInt8)
  | [] => .ok []
  | p :: rest =>
    if isBeyond p then .error ⟨position, position + (rest.takeWhile isBeyond).length, p⟩
    else
      match encodeFrom (position + 1) rest with
      | .ok bytes => .ok (UInt8.ofNat p.number :: bytes)
      | .error e => .error e

/-- The bytes of a text. -/
def encode (s : String) : Except Unwritable (List UInt8) := encodeFrom 0 (Text.pointsOf s)

/-- The characters that bytes stand for. -/
def decodeList (bytes : List UInt8) : List Char := bytes.map fun b => Char.ofNat b.toNat

/-- The text that bytes stand for. -/
def decode (bytes : List UInt8) : String := String.ofList (decodeList bytes)

theorem ofNat_number {p : Point} (h : isBeyond p = false) : .char (Char.ofNat (UInt8.ofNat p.number).toNat) = p := by
  have hp : p.number < 256 := by
    rw [isBeyond, Bool.eq_false_iff, ne_eq, Nat.blt_eq] at h
    omega
  cases p with
  | char c => rw [UInt8.toNat_ofNat', Nat.mod_eq_of_lt hp, Point.number, Char.ofNat_toNat]
  | half k =>
    have hn : (Point.half k).number = 0xD800 + k.val := rfl
    omega

/-- What was written reads back. -/
theorem decodeList_of_encodeFrom {position : Nat} {ps : List Point} {bytes : List UInt8}
    (h : encodeFrom position ps = .ok bytes) : (decodeList bytes).map .char = ps := by
  fun_induction encodeFrom position ps generalizing bytes with
  | case1 => cases h; rfl
  | case2 => cases h
  | case3 position p rest hp bs hbs ih =>
    cases h
    simp only [decodeList, List.map_cons, ofNat_number (Bool.not_eq_true _ ▸ hp)]
    rw [← ih hbs, decodeList]
  | case4 => cases h

end ActivityLog.Latin1
