import ActivityLog.Decimal.Binary64

/-!
# Decimal numerals

Reading decimal numerals as whole numbers and as binary floating-point numbers, rounded correctly. A numeral's
value grows digit by digit (`natOf_append_singleton`).
-/

namespace ActivityLog.Numeral

/-- The value of a list of decimal digits. -/
def natOf (ds : List Char) : Nat := ds.foldl (fun n c => n * 10 + (c.toNat - 48)) 0

/-- A numeral in two parts. -/
theorem natOf_append_singleton (ds : List Char) (c : Char) :
    natOf (ds ++ [c]) = natOf ds * 10 + (c.toNat - 48) := by
  simp [natOf]

/-- A decimal numeral: sign, digits before and after the point, exponent. -/
structure Parts where
  negative : Bool
  whole : List Char
  fraction : List Char
  exponent : Int

/-- The nearest binary number. Exponents beyond every binary number are cut off before powers are taken. -/
def Parts.toBinary64 (p : Parts) : Binary64 :=
  let ds := p.whole ++ p.fraction
  let n := natOf ds
  let e := p.exponent - p.fraction.length
  if n = 0 then .zero p.negative
  else if 400 < e + ds.length ∧ 400 < e then .infinite p.negative
  else if e + ds.length < -400 then .zero p.negative
  else if 0 ≤ e then .ofRatio p.negative (n * tenTo e.toNat) 1
  else .ofRatio p.negative n (tenTo (-e).toNat)

/-- Splits off the digits at the start. -/
def spanDigits (cs : List Char) : List Char × List Char := cs.span Char.isDigit

/-- A signed exponent after its mark. -/
def exponent? (cs : List Char) : Option Int :=
  let read (negative : Bool) (ds : List Char) : Option Int :=
    if ds.isEmpty || !ds.all Char.isDigit then none
    else some (if negative then -(natOf ds : Int) else natOf ds)
  match cs with
  | '-' :: ds => read true ds
  | '+' :: ds => read false ds
  | ds => read false ds

/-- The number that a plain text of a float names: a decimal numeral, `nan` or an infinity. -/
def float? (s : String) : Option Binary64 :=
  let (negative, cs) := match s.toList with
    | '-' :: cs => (true, cs)
    | '+' :: cs => (false, cs)
    | cs => (false, cs)
  if cs = ['n', 'a', 'n'] then some .nan
  else if cs = ['i', 'n', 'f'] then some (.infinite negative)
  else
    let (whole, rest) := spanDigits cs
    let (fraction, rest) := match rest with
      | '.' :: rest => spanDigits rest
      | rest => ([], rest)
    if whole.isEmpty && fraction.isEmpty then none
    else match rest with
      | [] => some (Parts.toBinary64 ⟨negative, whole, fraction, 0⟩)
      | e :: rest =>
        if e = 'e' ∨ e = 'E' then (exponent? rest).map fun n => Parts.toBinary64 ⟨negative, whole, fraction, n⟩
        else none

end ActivityLog.Numeral
