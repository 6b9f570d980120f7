import ActivityLog.Text.Point

/-!
# Reading UTF-8

`decode` reads bytes as UTF-8 and says where and why the first byte that fits no character stands; `decodeLossy` goes
on after such bytes and puts the replacement character in their place. The two agree on well-formed bytes
(`decodeLossy_of_decode`).
-/

namespace ActivityLog.Utf8

/-- Why bytes are no UTF-8. -/
inductive Fault where
  /-- No character starts with this byte. -/
  | invalidStart
  /-- A later byte of the character is not one that may follow. -/
  | invalidContinuation
  /-- The bytes end within a character. -/
  | unexpectedEnd
  deriving DecidableEq, Repr

/-- The bytes of the input that fit no character: where they start, how many they are, and the first of them. -/
structure Error where
  start : Nat
  width : Nat
  byte : UInt8
  fault : Fault

/-- What a first byte calls for: how many bytes follow, the range of the first of them, and its own share of the code
point. -/
structure Lead where
  tails : Nat
  low : Nat
  high : Nat
  share : Nat

/-- The characters a byte may start. -/
def lead? (b : Nat) : Option Lead :=
  if b < 0x80 then some ⟨0, 0x80, 0xBF, b⟩
  else if b < 0xC2 then none
  else if b < 0xE0 then some ⟨1, 0x80, 0xBF, b - 0xC0⟩
  else if b = 0xE0 then some ⟨2, 0xA0, 0xBF, 0⟩
  else if b = 0xED then some ⟨2, 0x80, 0x9F, 13⟩
  else if b < 0xF0 then some ⟨2, 0x80, 0xBF, b - 0xE0⟩
  else if b = 0xF0 then some ⟨3, 0x90, 0xBF, 0⟩
  else if b < 0xF4 then some ⟨3, 0x80, 0xBF, b - 0xF0⟩
  else if b = 0xF4 then some ⟨3, 0x80, 0x8F, 4⟩
  else none

/-- Reads the bytes after the first: the code point and the number of bytes read, or the fault and the number of bytes
that were in order. -/
def readTails : Nat → Nat → Nat → Nat → Nat → List UInt8 → Except (Fault × Nat) (Nat × Nat)
  | 0, _, _, code, read, _ => .ok (code, read)
  | _ + 1, _, _, _, read, [] => .error (.unexpectedEnd, read)
  | n + 1, low, high, code, read, b :: rest =>
    if low ≤ b.toNat ∧ b.toNat ≤ high then
      readTails n 0x80 0xBF (code * 64 + (b.toNat - 0x80)) (read + 1) rest
    else .error (.invalidContinuation, read)

/-- Reads one character: it and the number of bytes after the first that it takes, or the fault and the number of
bytes after the first that belong to the broken character. -/
def readChar (b : UInt8) (rest : List UInt8) : Except (Fault × Nat) (Char × Nat) :=
  match lead? b.toNat with
  | none => .error (.invalidStart, 0)
  | some l =>
    match readTails l.tails l.low l.high l.share 0 rest with
    | .ok (code, n) => .ok (Char.ofNat code, n)
    | .error e => .error e

/-- Reads bytes from a position of the input on. -/
def decodeFrom (position : Nat) : List UInt8 → Except Error (List Char)
  | [] => .ok []
  | b :: rest =>
    match readChar b rest with
    | .ok (c, n) =>
      match decodeFrom (position + n + 1) (rest.drop n) with
      | .ok cs => .ok (c :: cs)
      | .error e => .error e
    | .error (fault, n) => .error ⟨position, n + 1, b, fault⟩
termination_by bytes => bytes.length
decreasing_by simp only [List.length_drop, List.length_cons]; omega

/-- The text that the bytes spell. -/
def decode (bytes : List UInt8) : Except Error String :=
  (decodeFrom 0 bytes).map Text.ofChars

/-- The characters that the bytes spell, with one replacement character for each run that fits none. -/
def decodeLossyList : List UInt8 → List Char
  | [] => []
  | b :: rest =>
    match readChar b rest with
    | .ok (c, n) => c :: decodeLossyList (rest.drop n)
    | .error (_, n) => '\uFFFD' :: decodeLossyList (rest.drop n)
termination_by bytes => bytes.length
decreasing_by all_goals simp only [List.length_drop, List.length_cons]; omega

/-- The text that the bytes spell, broken characters replaced. -/
def decodeLossy (bytes : List UInt8) : String := Text.ofChars (decodeLossyList bytes)

/-- On well-formed bytes nothing is replaced. -/
theorem decodeLossyList_of_decodeFrom {position : Nat} {bytes : List UInt8} {cs : List Char}
    (h : decodeFrom position bytes = .ok cs) : decodeLossyList bytes = cs := by
  fun_induction decodeFrom position bytes generalizing cs with
  | case1 => cases h; simp [decodeLossyList]
  | case2 position b rest c n hread ds hds ih =>
    cases h
    rw [decodeLossyList, hread]
    simp [ih hds]
  | case3 => cases h
  | case4 => cases h

/-- On well-formed bytes both readings agree. -/
theorem decodeLossy_of_decode {bytes : List UInt8} {s : String} (h : decode bytes = .ok s) :
    decodeLossy bytes = s := by
  unfold decode at h
  cases hd : decodeFrom 0 bytes with
  | error e => rw [hd] at h; cases h
  | ok cs => rw [hd] at h; cases h; rw [decodeLossy, decodeLossyList_of_decodeFrom hd]

/-- The wording of a fault. -/
def Fault.message : Fault → String
  | .invalidStart => "invalid start byte"
  | .invalidContinuation => "invalid continuation byte"
  | .unexpectedEnd => "unexpected end of data"

end ActivityLog.Utf8
