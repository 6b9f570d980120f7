/-!
# Code points

A text is made of code points. Most of them are characters. In UTF-16 a character beyond the first plane is a pair of
units; a unit of such a pair that stands alone is a code point too, but no character. A string holds characters only, so
in strings a private character of the last plane stands for half a pair, and a private character that could be taken
for one stands behind a mark, as the mark does. `points` says which code points the characters of a string make, and
`spell` writes code points as characters. Main statement: what was written is read back (`points_spell`).
-/

namespace ActivityLog.Text

/-- A code point. -/
inductive Point where
  | char (c : Char)
  /-- Half of a pair, by its place among the halves. -/
  | half (place : Fin 0x800)
  deriving DecidableEq, Repr

/-- The least number of half a pair. -/
def leastHalf : Nat := 0xD800

/-- The least number of a character that stands for half a pair. -/
def leastStandIn : Nat := 0x10D800

/-- The character that marks the next one as standing for itself. -/
def mark : Char := Char.ofNat 0x10E000

/-- Whether a character stands for half a pair, unless it is marked. -/
def isStandIn (c : Char) : Bool := Nat.ble leastStandIn c.toNat && Nat.blt c.toNat (leastStandIn + 0x800)

namespace Point

/-- The number of a code point. -/
def number : Point → Nat
  | .char c => c.toNat
  | .half k => leastHalf + k.val

/-- The code point with a number. -/
def ofNumber (n : Nat) : Point :=
  if h : leastHalf ≤ n ∧ n < leastHalf + 0x800 then .half ⟨n - leastHalf, by omega⟩ else .char (Char.ofNat n)

/-- The character of a code point, if it is one. -/
def char? : Point → Option Char
  | .char c => some c
  | .half _ => none

/-- Whether a code point is half a pair. -/
def isHalf : Point → Bool
  | .char _ => false
  | .half _ => true

/-- The characters that a code point is written with. -/
def spelled : Point → List Char
  | .char c => if isStandIn c || c == mark then [mark, c] else [c]
  | .half k => [Char.ofNat (leastStandIn + k.val)]

/-- The code point that a character stands for without a mark. -/
def unmarked (c : Char) : Point :=
  if h : leastStandIn ≤ c.toNat ∧ c.toNat < leastStandIn + 0x800 then .half ⟨c.toNat - leastStandIn, by omega⟩
  else .char c

end Point

/-- The characters that code points are written with. -/
def spell (ps : List Point) : List Char := ps.flatMap Point.spelled

/-- The code points that characters make. -/
def points : List Char → List Point
  | [] => []
  | c :: rest =>
    if c = mark then
      match rest with
      | marked :: rest => .char marked :: points rest
      | [] => [.char c]
    else Point.unmarked c :: points rest

/-- The code points of a text. -/
def pointsOf (s : String) : List Point := points s.toList

/-- The text of code points. -/
def ofPoints (ps : List Point) : String := String.ofList (spell ps)

/-- The text of characters that all stand for themselves. -/
def ofChars (cs : List Char) : String := ofPoints (cs.map .char)

/-- How many code points a text has. -/
def size (s : String) : Nat := (pointsOf s).length

/-- The text of one code point. -/
def single (p : Point) : String := ofPoints [p]

/-- The text with other characters in the place of each half pair. -/
def replaceHalves (instead : List Char) (s : String) : String :=
  ofChars ((pointsOf s).flatMap fun p => match p with
    | .char c => [c]
    | .half _ => instead)

/-- Whether a text stands before another one by the numbers of their code points. -/
def isBefore (s t : String) : Bool := decide ((pointsOf s).map Point.number < (pointsOf t).map Point.number)

/-- Whether a text has halves of pairs. -/
def hasHalves (s : String) : Bool := (pointsOf s).any Point.isHalf

/-- The characters of a text, which stand for themselves; halves of pairs are left out. -/
def plain (s : String) : String := String.ofList ((pointsOf s).filterMap Point.char?)

/-- The text of characters that stand for themselves. -/
def guarded (plain : String) : String := ofChars plain.toList

theorem isStandIn_iff (c : Char) :
    isStandIn c = true ↔ leastStandIn ≤ c.toNat ∧ c.toNat < leastStandIn + 0x800 := by
  simp [isStandIn, Nat.ble_eq, Nat.blt_eq]

theorem toNat_standIn (k : Fin 0x800) : (Char.ofNat (leastStandIn + k.val)).toNat = leastStandIn + k.val := by
  have hk := k.isLt
  have hv : (leastStandIn + k.val).isValidChar := Or.inr (by unfold leastStandIn; omega)
  rw [Char.ofNat, dif_pos hv]
  rfl

theorem toNat_mark : mark.toNat = 0x10E000 := by decide

theorem points_cons {c : Char} (h : c ≠ mark) (cs : List Char) :
    points (c :: cs) = Point.unmarked c :: points cs := by
  rw [points.eq_def]
  simp [h]

theorem points_marked (c : Char) (cs : List Char) : points (mark :: c :: cs) = .char c :: points cs := by
  rw [points.eq_def]
  simp

/-- A code point is read back before any characters. -/
theorem points_spelled (p : Point) (cs : List Char) : points (p.spelled ++ cs) = p :: points cs := by
  cases p with
  | char c =>
    by_cases h : (isStandIn c || c == mark) = true
    · simp [Point.spelled, h, points_marked]
    · have hs : ¬ (leastStandIn ≤ c.toNat ∧ c.toNat < leastStandIn + 0x800) := by
        rw [← isStandIn_iff]
        simp_all
      have hm : c ≠ mark := by simp_all
      simp [Point.spelled, h, points_cons hm, Point.unmarked, hs]
  | half k =>
    have hn := toNat_standIn k
    have hk := k.isLt
    have hm : Char.ofNat (leastStandIn + k.val) ≠ mark := by
      intro he
      rw [he, toNat_mark] at hn
      unfold leastStandIn at hn
      omega
    simp [Point.spelled, points_cons hm, Point.unmarked, hn]

/-- What was written is read back. -/
theorem points_spell (ps : List Point) : points (spell ps) = ps := by
  induction ps with
  | nil => rfl
  | cons p ps ih =>
    have : spell (p :: ps) = p.spelled ++ spell ps := rfl
    rw [this, points_spelled, ih]

/-- The code points of a text that was made of them. -/
theorem pointsOf_ofPoints (ps : List Point) : pointsOf (ofPoints ps) = ps := by
  simp [pointsOf, ofPoints, points_spell]

end ActivityLog.Text
