/-!
# The calendar

Days of the Gregorian calendar, counted from the first of January of year 1, which is day 1, and the date of a day.
-/

namespace ActivityLog

/-- A date. -/
structure Date where
  year : Nat
  month : Nat
  day : Nat
  deriving DecidableEq, Repr

namespace Calendar

/-- Whether a year has a leap day. -/
def isLeap (year : Nat) : Bool := year % 4 == 0 && (year % 100 != 0 || year % 400 == 0)

/-- The days before the first of January of a year. -/
def daysBeforeYear (year : Nat) : Nat :=
  let y := year - 1
  y * 365 + y / 4 - y / 100 + y / 400

/-- The days of a month. -/
def daysInMonth (year month : Nat) : Nat :=
  if month = 2 then (if isLeap year then 29 else 28)
  else if month = 4 ∨ month = 6 ∨ month = 9 ∨ month = 11 then 30
  else 31

/-- The days of a year before a month. -/
def daysBeforeMonth (year : Nat) : Nat → Nat
  | 0 => 0
  | 1 => 0
  | m + 1 => daysBeforeMonth year m + daysInMonth year m

/-- The number of a date's day. -/
def ordinal (d : Date) : Nat := daysBeforeYear d.year + daysBeforeMonth d.year d.month + d.day

/-- Whether a date exists; years go from 1 to 9999. -/
def isValid (d : Date) : Bool :=
  decide (1 ≤ d.year ∧ d.year ≤ 9999 ∧ 1 ≤ d.month ∧ d.month ≤ 12 ∧ 1 ≤ d.day ∧ d.day ≤ daysInMonth d.year d.month)

/-- The month and day of the `n`-th day of a year, counted from 0, searched for from a month on. -/
def monthDay (year : Nat) : Nat → Nat → Nat → Nat × Nat
  | 0, month, n => (month, n + 1)
  | fuel + 1, month, n =>
    if n < daysInMonth year month then (month, n + 1)
    else monthDay year fuel (month + 1) (n - daysInMonth year month)

/-- The year of a day, and the day's number within it, counted from 0. -/
def yearDay (n : Nat) : Nat × Nat :=
  let n := n - 1
  let cycles400 := n / 146097
  let n := n % 146097
  let cycles100 := n / 36524
  let r := n % 36524
  let cycles4 := r / 1461
  let r := r % 1461
  let years := r / 365
  let year := cycles400 * 400 + cycles100 * 100 + cycles4 * 4 + years + 1
  if years = 4 ∨ cycles100 = 4 then (year - 1, 365) else (year, r % 365)

/-- The date of a day. -/
def ofOrdinal (n : Nat) : Date :=
  let (year, day) := yearDay n
  let (month, day) := monthDay year 11 1 day
  ⟨year, month, day⟩

/-- The number of the first of January 1970. -/
def epoch : Nat := 719163

/-- The microseconds of a day. -/
def dayMicros : Nat := 86400 * 1000000

/-- Whether a year has 53 weeks. -/
def hasLongYear (year : Nat) : Bool :=
  let weekday := (daysBeforeYear year + 1 + 6) % 7
  weekday == 3 || (weekday == 2 && isLeap year)

/-- The day on which week 1 of a year begins: the Monday of the week that holds the fourth of January. -/
def firstMonday (year : Nat) : Int :=
  let fourth : Int := (daysBeforeYear year : Int) + 4
  fourth - (fourth + 6) % 7

/-- The date of a day of a week, if the year has that week and the date exists. -/
def ofWeek? (year week day : Nat) : Option Date :=
  if 1 ≤ year ∧ 1 ≤ week ∧ (week ≤ 52 ∨ week = 53 ∧ hasLongYear year) ∧ 1 ≤ day ∧ day ≤ 7 then
    let n := firstMonday year + ((week - 1) * 7 + (day - 1) : Nat)
    if 1 ≤ n then some (ofOrdinal n.toNat) |>.filter isValid else none
  else none

end Calendar

end ActivityLog
