import ActivityLog.Decimal.Binary64

/-!
# The shortest decimal text of a number

A number is written with the fewest digits that read back as it, and of those with the nearest ones. `digits` finds
them: for each count of digits it tries the number's two neighbours on that decimal grid. `Style` holds the choices of
a notation, and `Binary64.text` uses that of this library: positional for exponents from -3 to 16, always with a point,
otherwise scientific with a signed exponent of two digits or more.
-/

namespace ActivityLog.Shortest

/-- The decimals that read back as one number: a closed or open interval, its middle the number itself, all over one
denominator. -/
structure Interval where
  low : Nat
  middle : Nat
  high : Nat
  den : Nat
  closed : Bool

/-- The decimals that read back as `m · 2^q`. Below a power of two the next number is half as far. -/
def interval (m : Nat) (q : Int) : Interval :=
  let p := Binary64.twoPow q
  let below := if m = Nat.pow 2 52 ∧ -1074 < q then 1 else 2
  ⟨(4 * m - below) * p.1, 4 * m * p.1, (4 * m + 2) * p.1, 4 * p.2, m % 2 == 0⟩

/-- Whether `n · 10^e` reads back. -/
def Interval.holds (i : Interval) (n : Nat) (e : Int) : Bool :=
  let point := if 0 ≤ e then n * tenTo e.toNat * i.den else n * i.den
  let factor := if 0 ≤ e then 1 else tenTo (-e).toNat
  if i.closed then Nat.ble (i.low * factor) point && Nat.ble point (i.high * factor)
  else Nat.blt (i.low * factor) point && Nat.blt point (i.high * factor)

/-- How many decimal digits a positive number has. -/
def digitCount (n : Nat) : Nat := (Nat.toDigits 10 n).length

/-- The `d` with `10^(d-1) ≤ num / den < 10^d`. -/
def decimalPoint (num den : Nat) : Int :=
  let d : Int := (digitCount num : Int) - digitCount den
  let small := if 0 ≤ d then num < den * tenTo d.toNat else num * tenTo (-d).toNat < den
  if small then d else d + 1

/-- The neighbour of the number on the grid of `k` digits that reads back, the nearer one of two. -/
def onGrid (i : Interval) (d : Int) (k : Nat) : Option (Nat × Int) :=
  let e := d - k
  let num := if 0 ≤ e then i.middle else i.middle * tenTo (-e).toNat
  let den := if 0 ≤ e then i.den * tenTo e.toNat else i.den
  let below := num / den
  let nearest := roundEven num den
  let other := if nearest = below then below + 1 else below
  if i.holds nearest e then some (nearest, e)
  else if i.holds other e then some (other, e)
  else none

/-- The whole number without the zeros at its end, and how many they were. -/
def stripZeros : Nat → Nat → Nat × Nat
  | 0, n => (n, 0)
  | fuel + 1, n =>
    if n % 10 = 0 ∧ n ≠ 0 then
      let (m, k) := stripZeros fuel (n / 10)
      (m, k + 1)
    else (n, 0)

/-- The digits of a positive number and the place of its point: the number is `0.d₁d₂… · 10^point`. -/
def digits (m : Nat) (q : Int) : List Char × Int :=
  let i := interval m q
  let d := decimalPoint i.middle i.den
  let found := (List.range' 1 17).findSome? (onGrid i d)
  let (n, e) := found.getD (0, d)
  let (n, zeros) := stripZeros 20 n
  let ds := Nat.toDigits 10 n
  (ds, (ds.length : Int) + e + zeros)

/-- The choices of a notation. -/
structure Style where
  /-- The greatest place of the point that is written positionally. -/
  maxPoint : Int
  /-- The least such place. -/
  minPoint : Int
  /-- The least number of digits of an exponent. -/
  exponentWidth : Nat
  nan : String
  infinity : String

/-- Digits with a point after the first `point` of them, and at least one digit on both sides. -/
def positional (ds : List Char) (point : Int) : List Char :=
  if point ≤ 0 then '0' :: '.' :: (List.replicate (-point).toNat '0' ++ ds)
  else
    let whole := ds.take point.toNat
    let rest := ds.drop point.toNat
    whole ++ List.replicate (point.toNat - whole.length) '0' ++ '.' :: (if rest.isEmpty then ['0'] else rest)

/-- One digit, a point if more follow, the exponent with its sign. -/
def scientific (width : Nat) (ds : List Char) (point : Int) : List Char :=
  let e := point - 1
  let es := Nat.toDigits 10 e.natAbs
  let rest := ds.drop 1
  ds.take 1 ++ (if rest.isEmpty then [] else '.' :: rest) ++
    ['e', if e < 0 then '-' else '+'] ++ List.replicate (width - es.length) '0' ++ es

/-- A number in a notation. -/
def Style.write (style : Style) : Binary64 → String
  | .nan => style.nan
  | .infinite negative => if negative then "-" ++ style.infinity else style.infinity
  | .finite negative m q =>
    let body :=
      if m = 0 then ['0', '.', '0']
      else
        let (ds, point) := digits m q
        if style.minPoint ≤ point ∧ point ≤ style.maxPoint then positional ds point
        else scientific style.exponentWidth ds point
    String.ofList (if negative then '-' :: body else body)

end ActivityLog.Shortest

namespace ActivityLog.Binary64

/-- Plain text of numbers: positional from `0.0001` up to below `10^16`. -/
def plainStyle : Shortest.Style := ⟨16, -3, 2, "nan", "inf"⟩

/-- The plain text of a number. -/
def text (x : Binary64) : String := plainStyle.write x

/-- The text of a number in JSON output. -/
def json (x : Binary64) : String := { plainStyle with nan := "NaN", infinity := "Infinity" }.write x

end ActivityLog.Binary64
