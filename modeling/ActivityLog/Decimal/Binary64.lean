/-!
# Binary floating-point numbers of 64 bits

A number is a sign, a whole number `m` and an exponent `q`, and stands for `m · 2^q`. `ofRatio` rounds a quotient to
the nearest such number, to the even `m` when two are equally near. Main statements: the rounding is within half a
unit (`roundEven_le`, `le_roundEven`).
-/

namespace ActivityLog

/-- A power of ten. -/
def tenTo (n : Nat) : Nat := Nat.pow 10 n

/-- A binary floating-point number: `m · 2^q` with its sign, an infinity, or no number. -/
inductive Binary64 where
  | nan
  | infinite (negative : Bool)
  | finite (negative : Bool) (m : Nat) (q : Int)
  deriving DecidableEq, Repr

/-- The quotient rounded to the nearest whole number, a half to the even one. -/
def roundEven (num den : Nat) : Nat :=
  let low := num / den
  let rest := num % den
  if 2 * rest < den then low
  else if den < 2 * rest then low + 1
  else if low % 2 = 0 then low else low + 1

/-- Rounding goes up by at most a half. -/
theorem roundEven_le (num den : Nat) : 2 * (roundEven num den * den) ≤ 2 * num + den := by
  have h := Nat.div_add_mod num den
  rw [Nat.mul_comm] at h
  unfold roundEven
  simp only
  split
  · omega
  · split
    · rw [Nat.add_mul]; omega
    · split <;> (try rw [Nat.add_mul]) <;> omega

/-- Rounding goes down by at most a half. -/
theorem le_roundEven {num den : Nat} (hd : 0 < den) : 2 * num ≤ 2 * (roundEven num den * den) + den := by
  have h := Nat.div_add_mod num den
  have hr := Nat.mod_lt num hd
  rw [Nat.mul_comm] at h
  unfold roundEven
  simp only
  split
  · omega
  · split
    · rw [Nat.add_mul]; omega
    · split <;> (try rw [Nat.add_mul]) <;> omega

namespace Binary64

/-- Zero with a sign. -/
def zero (negative : Bool) : Binary64 := .finite negative 0 (-1074)

/-- A power of two as a quotient. -/
def twoPow (q : Int) : Nat × Nat := if 0 ≤ q then (Nat.pow 2 q.toNat, 1) else (1, Nat.pow 2 (-q).toNat)

/-- The greatest `e` with `2^e ≤ num / den`, for positive parts. -/
def floorLog2 (num den : Nat) : Int :=
  let e : Int := (num.log2 : Int) - den.log2
  let p := twoPow e
  if p.1 * den ≤ num * p.2 then e else e - 1

/-- The nearest number to a quotient with a sign. -/
def ofRatio (negative : Bool) (num den : Nat) : Binary64 :=
  if num = 0 then zero negative
  else
    let q : Int := max (floorLog2 num den - 52) (-1074)
    let p := twoPow q
    let m := roundEven (num * p.2) (den * p.1)
    let (m, q) := if m = Nat.pow 2 53 then (Nat.pow 2 52, q + 1) else (m, q)
    if 971 < q then .infinite negative else .finite negative m q

/-- The nearest number to a whole number. -/
def ofInt (n : Int) : Binary64 := ofRatio (n < 0) n.natAbs 1

/-- The size of a finite number as a quotient. -/
def ratio (m : Nat) (q : Int) : Nat × Nat :=
  let p := twoPow q
  (m * p.1, p.2)

/-- Whether the number is zero, of either sign. -/
def isZero : Binary64 → Bool
  | .finite _ m _ => m == 0
  | _ => false

/-- Whether the number is a whole number, and which. -/
def toInt? : Binary64 → Option Int
  | .finite negative m q =>
    let (num, den) := ratio m q
    if num % den = 0 then some (if negative then -((num / den : Nat) : Int) else (num / den : Nat)) else none
  | _ => none

/-- The signed numerator over a power of two as denominator. -/
def signedRatio (negative : Bool) (m : Nat) (q : Int) : Int × Nat :=
  let (num, den) := ratio m q
  (if negative then -(num : Int) else num, den)

/-- The difference, rounded to the nearest number. -/
def sub : Binary64 → Binary64 → Binary64
  | .nan, _ => .nan
  | _, .nan => .nan
  | .infinite s, .infinite t => if s == t then .nan else .infinite s
  | .infinite s, .finite .. => .infinite s
  | .finite .., .infinite t => .infinite !t
  | .finite s m q, .finite t n r =>
    let (a, b) := signedRatio s m q
    let (c, d) := signedRatio t n r
    let num := a * d - c * b
    if num = 0 then zero (s && !t && m == 0)
    else ofRatio (num < 0) num.natAbs (b * d)

/-- The number times a whole number, rounded to the nearest number. -/
def scale (k : Nat) : Binary64 → Binary64
  | .finite s m q =>
    let (num, den) := ratio m q
    ofRatio s (num * k) den
  | x => x

/-- The number rounded to `places` decimal places, a half to the even last digit. -/
def roundPlaces (places : Nat) : Binary64 → Binary64
  | .finite s m q =>
    let (num, den) := ratio m q
    ofRatio s (roundEven (num * tenTo places) den) (tenTo places)
  | x => x

end Binary64

end ActivityLog
