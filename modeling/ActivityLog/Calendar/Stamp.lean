import ActivityLog.Calendar
import ActivityLog.Decimal.Binary64
import ActivityLog.Text.Point

/-!
# Time stamps

A time stamp is a date, `T`, a time of day and an offset. `Stamp.write` gives the stamp of a number of microseconds
since 1970 in UTC; the fraction is left out when it is zero. `Stamp.read?` reads the ISO 8601 forms of a date and
time: calendar and week dates, with or without separators, any one character between date and time, fractions of any
length, and offsets.
-/

namespace ActivityLog

/-- A moment by its local date and time, in microseconds from the start of day 0, and its offset from UTC, if known. -/
structure Moment where
  clock : Int
  offset : Option Int
  deriving DecidableEq, Repr

namespace Stamp

/-! ## Writing -/

/-- The last `width` decimal digits of a number. -/
def digits : Nat → Nat → List Char
  | 0, _ => []
  | width + 1, n => digits width (n / 10) ++ [Nat.digitChar (n % 10)]

/-- The characters of a date. -/
def writeDate (d : Date) : List Char := digits 4 d.year ++ '-' :: (digits 2 d.month ++ '-' :: digits 2 d.day)

/-- The characters of a time of day, given in microseconds. -/
def writeTime (micros : Nat) : List Char :=
  let seconds := micros / 1000000
  let fraction := micros % 1000000
  digits 2 (seconds / 3600) ++ ':' :: (digits 2 (seconds / 60 % 60) ++ ':' :: (digits 2 (seconds % 60) ++
    (if fraction = 0 then [] else '.' :: digits 6 fraction)))

/-- The characters of the stamp of a moment in UTC, in microseconds since 1970. -/
def writeList (micros : Int) : List Char :=
  let total := micros + (Calendar.epoch * Calendar.dayMicros : Nat)
  let day := (total / Calendar.dayMicros).toNat
  let rest := (total % Calendar.dayMicros).toNat
  writeDate (Calendar.ofOrdinal day) ++ 'T' :: (writeTime rest ++ ['+', '0', '0', ':', '0', '0'])

/-- The first microsecond of the calendar, the first day of the year 1. -/
def firstMoment : Int := -62135596800000000

/-- The last microsecond of the calendar, at the end of the year 9999. -/
def lastMoment : Int := 253402300799999999

/-- Whether the calendar has a moment. -/
def isInCalendar (micros : Int) : Bool := decide (firstMoment ≤ micros ∧ micros ≤ lastMoment)

/-- The stamp of a moment in UTC. -/
def write (micros : Int) : String := String.ofList (writeList micros)

/-! ## Reading -/

/-- The value of an ASCII digit. -/
def digit? (b : Nat) : Option Nat := if 48 ≤ b ∧ b ≤ 57 then some (b - 48) else none

/-- The value of a row of digits. -/
def number? (bs : List Nat) : Option Nat :=
  bs.foldlM (fun n b => (digit? b).map (n * 10 + ·)) 0

/-- A date from the bytes of its text: with or without hyphens, by month and day or by week. -/
def readDate? (bs : List Nat) : Option Date :=
  match bs with
  | [a, b, c, d, 45, 87, w, x] => do Calendar.ofWeek? (← number? [a, b, c, d]) (← number? [w, x]) 1
  | [a, b, c, d, 45, 87, w, x, 45, e] =>
    do Calendar.ofWeek? (← number? [a, b, c, d]) (← number? [w, x]) (← number? [e])
  | [a, b, c, d, 45, m, n, 45, e, f] => do
    let date : Date := ⟨← number? [a, b, c, d], ← number? [m, n], ← number? [e, f]⟩
    if Calendar.isValid date then some date else none
  | [a, b, c, d, 87, w, x] => do Calendar.ofWeek? (← number? [a, b, c, d]) (← number? [w, x]) 1
  | [a, b, c, d, 87, w, x, e] => do Calendar.ofWeek? (← number? [a, b, c, d]) (← number? [w, x]) (← number? [e])
  | [a, b, c, d, m, n, e, f] => do
    let date : Date := ⟨← number? [a, b, c, d], ← number? [m, n], ← number? [e, f]⟩
    if Calendar.isValid date then some date else none
  | _ => none

/-- Where the date ends in the bytes of a stamp. A week date without a day is told from one with a day by what
follows it. -/
def dateLength (bs : List Nat) : Nat :=
  let at' (i : Nat) : Nat := (bs[i]?).getD 0
  let isDigit (b : Nat) : Bool := (digit? b).isSome
  let len := bs.length
  if len = 7 then 7
  else if at' 4 = 45 then
    if at' 5 = 87 then
      if 8 < len ∧ at' 8 = 45 then (if 10 < len ∧ isDigit (at' 10) then 8 else 10) else 8
    else 10
  else if at' 4 = 87 then
    let row := 7 + ((bs.drop 7).takeWhile isDigit).length
    if row < 9 then row else if row % 2 = 0 then 7 else 8
  else 8

/-- Hours, minutes, seconds and microseconds as read, and whether something was left unread. -/
structure ClockText where
  hour : Nat
  minute : Nat
  second : Nat
  micros : Nat
  unread : Bool

/-- The fraction of a second: six digits at most count, further ones are passed over. `more` says whether anything
follows the bytes; a zero byte ends them. -/
def readFraction? (more : Bool) (bs : List Nat) : Option (Nat × Bool) := do
  let n := min 6 bs.length
  let value ← number? (bs.take n)
  let rest := (bs.drop n).dropWhile fun b => (digit? b).isSome
  return (value * tenTo (6 - n), more || rest.headD 0 != 0)

/-- The numbers of a time, two digits each, up to three of them, then a fraction. Whether colons stand between them is
settled after the first (`colons?`). -/
def readNumbers? (more : Bool) : Nat → Option Bool → List Nat → Option (List Nat × Nat × Bool)
  | 0, _, bs => (readFraction? more bs).map fun (f, unread) => ([], f, unread)
  | count + 1, colons?, a :: b :: rest => do
    let n ← number? [a, b]
    match rest with
    | [] => some ([n], 0, more)
    | [c] => some ([n], 0, c != 0)
    | c :: tail =>
      let colons := colons?.getD (c == 58)
      if colons && c == 58 then
        let (ns, f, unread) ← readNumbers? more count (some colons) tail
        some (n :: ns, f, unread)
      else if c = 46 ∨ c = 44 then
        let (f, unread) ← readFraction? more tail
        some ([n], f, unread)
      else if !colons then
        let (ns, f, unread) ← readNumbers? more count (some colons) (c :: tail)
        some (n :: ns, f, unread)
      else none
  | _ + 1, _, _ => none

/-- A time of day or an offset. -/
def readClock? (more : Bool) (bs : List Nat) : Option ClockText := do
  let (ns, f, unread) ← readNumbers? more 3 none bs
  return ⟨ns.getD 0 0, ns.getD 1 0, ns.getD 2 0, f, unread⟩

/-- The microseconds that hours, minutes and seconds make. -/
def ClockText.total (c : ClockText) : Nat := ((c.hour * 60 + c.minute) * 60 + c.second) * 1000000 + c.micros

/-- The microseconds of an offset. One of less than a second is none at all. -/
def ClockText.offset (c : ClockText) (negative : Bool) : Int :=
  let size : Int := if c.total < 1000000 then 0 else c.total
  if negative then -size else size

/-- A time of day and an offset, from the bytes after the separator. -/
def readTime? (bs : List Nat) : Option (Nat × Option Int) := do
  let isSign (b : Nat) : Bool := b == 43 || b == 45 || b == 90
  let before := bs.takeWhile fun b => !isSign b
  let after := bs.dropWhile fun b => !isSign b
  let time ← readClock? (!after.isEmpty) before
  let offset ← match after with
    | [] => if time.unread then none else some none
    | 90 :: rest => if rest.headD 0 = 0 then some (some 0) else none
    | sign :: rest => do
      let zone ← readClock? false rest
      if zone.unread || Calendar.dayMicros ≤ zone.total then none
      else some (some (zone.offset (sign == 45)))
  if time.hour < 24 ∧ time.minute < 60 ∧ time.second < 60 then some (time.total, offset) else none

/-- The length of a character by the first byte of its UTF-8 form. -/
def charLength (b : Nat) : Nat :=
  if b < 128 then 1 else if b / 16 = 14 then 3 else if b / 16 = 15 then 4 else 2

/-- A moment from the bytes of its stamp. -/
def readBytes? (bs : List Nat) : Option Moment := do
  if bs.length < 7 then none
  else
    let cut := dateLength bs
    let date ← readDate? (bs.take cut)
    let start : Int := (Calendar.ordinal date * Calendar.dayMicros : Nat)
    let rest := bs.drop cut
    match rest with
    | [] => some ⟨start, none⟩
    | b :: _ =>
      let (time, offset) ← readTime? (rest.drop (charLength b))
      some ⟨start + time, offset⟩

/-- A stamp with a plain separator in the place of half a pair, where one may stand. -/
def withSeparator (ps : List Text.Point) : List Text.Point :=
  match [7, 8, 10].find? fun i => (ps[i]?).any Text.Point.isHalf with
  | some i => ps.set i (.char 'T')
  | none => ps

/-- A moment from its stamp. The separator may be half a pair, all else has characters. -/
def read? (s : String) : Option Moment := do
  let cs ← (withSeparator (Text.pointsOf s)).mapM Text.Point.char?
  readBytes? ((String.ofList cs).toUTF8.toList.map UInt8.toNat)

end Stamp

/-- The microseconds between two moments; nothing when only one of them has an offset. -/
def Moment.sub? (later earlier : Moment) : Option Int :=
  match later.offset, earlier.offset with
  | some a, some b => some ((later.clock - a) - (earlier.clock - b))
  | none, none => some (later.clock - earlier.clock)
  | _, _ => none

/-- Microseconds as milliseconds: as seconds first, then times 1000, then rounded to three places. -/
def millisOfMicros (micros : Int) : Binary64 :=
  ((Binary64.ofRatio (micros < 0) micros.natAbs 1000000).scale 1000).roundPlaces 3

end ActivityLog
