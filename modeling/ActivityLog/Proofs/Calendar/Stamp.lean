import ActivityLog.Calendar.Stamp
import ActivityLog.Proofs.Calendar

/-!
# Stamps read back

A stamp that was written is read as the moment it was written for, in UTC (`read?_write`): over the whole calendar, with
a fraction and without. Written stamps are plain ASCII, so reading is about the numbers of their characters
(`read?_of_ascii`); digits in rows of a fixed width read back (`number?_row`), and from them the date
(`readDate?_writeDate`), the time of day (`readClock?_timeRow`) and the whole (`readBytes?_stamp`).
-/

namespace ActivityLog

/-! ## Plain texts -/

namespace Text

/-- The bytes of an array that was made from a list. -/
theorem toList_toByteArray (bs : List UInt8) : bs.toByteArray.toList = bs := by
  have hloop (a : ByteArray) (i : Nat) (r : List UInt8) :
      ByteArray.toList.loop a i r = r.reverse ++ a.data.toList.drop i := by
    fun_induction ByteArray.toList.loop a i r with
    | case1 i r h ih =>
      have hi : i < a.data.toList.length := by simpa using h
      have hget : a.get! i = a.data.toList[i] := by simp [ByteArray.get!, h]
      rw [ih, List.drop_eq_getElem_cons hi, List.reverse_cons, List.append_assoc, hget]
      rfl
    | case2 i r h =>
      rw [List.drop_eq_nil_of_le (by simpa using Nat.le_of_not_lt h), List.append_nil]
  rw [ByteArray.toList, hloop, List.toList_data_toByteArray]
  rfl

variable {cs : List Char} (h : ∀ c ∈ cs, c.toNat < 128)
include h

/-- An ASCII text has one byte for each character. -/
theorem bytes_ofList : (String.ofList cs).toUTF8.toList.map UInt8.toNat = cs.map Char.toNat := by
  have hbytes : (String.ofList cs).toUTF8.toList = cs.flatMap String.utf8EncodeChar := toList_toByteArray _
  rw [hbytes]
  clear hbytes
  induction cs with
  | nil => rfl
  | cons c rest ih =>
    have hsmall : c.val.toNat ≤ 127 := Nat.le_of_lt_succ (h c List.mem_cons_self)
    have hchar : String.utf8EncodeChar c = [UInt8.ofNat c.val.toNat] := if_pos hsmall
    rw [List.flatMap_cons, hchar, List.singleton_append, List.map_cons, UInt8.toNat_ofNat',
      Nat.mod_eq_of_lt (by omega), ih fun d hd => h d (List.mem_cons_of_mem _ hd)]
    rfl

/-- The characters of an ASCII text stand for themselves. -/
theorem pointsOf_ofList : pointsOf (String.ofList cs) = cs.map .char := by
  rw [pointsOf, String.toList_ofList]
  induction cs with
  | nil => rfl
  | cons c rest ih =>
    have hc : c.toNat < 128 := h c List.mem_cons_self
    have hmark : c ≠ mark := by
      rintro rfl
      rw [toNat_mark] at hc
      omega
    have hplain : Point.unmarked c = .char c := dif_neg (by unfold leastStandIn; omega)
    rw [points_cons hmark, hplain, ih fun d hd => h d (List.mem_cons_of_mem _ hd), List.map_cons]

end Text

namespace Stamp

/-- An ASCII text is read by the numbers of its characters. -/
theorem read?_of_ascii {s : String} (h : ∀ c ∈ s.toList, c.toNat < 128) :
    read? s = readBytes? (s.toList.map Char.toNat) := by
  obtain ⟨cs, rfl⟩ : ∃ cs, s = String.ofList cs := ⟨s.toList, String.ofList_toList.symm⟩
  rw [String.toList_ofList] at h ⊢
  have hpoints : withSeparator (Text.pointsOf (String.ofList cs)) = cs.map .char := by
    rw [Text.pointsOf_ofList h]
    unfold withSeparator
    split
    · next i hi =>
      have hhalf := List.find?_some hi
      rw [List.getElem?_map] at hhalf
      cases hc : cs[i]? <;> simp [hc, Text.Point.isHalf] at hhalf
    · rfl
  have hchars : (cs.map Text.Point.char).mapM Text.Point.char? = some cs := by
    clear h hpoints
    induction cs with
    | nil => rfl
    | cons c rest ih => simp [List.map_cons, List.mapM_cons, Text.Point.char?, ih]
  unfold read?
  rw [hpoints, hchars]
  exact congrArg readBytes? (Text.bytes_ofList h)

/-! ## Digits -/

/-- The numbers of the characters of a number in digits. -/
def row (width n : Nat) : List Nat := (digits width n).map Char.toNat

theorem row_succ (width n : Nat) : row (width + 1) n = row width (n / 10) ++ [48 + n % 10] := by
  have hdigit : (Nat.digitChar (n % 10)).toNat = 48 + n % 10 := Nat.toNat_digitChar_of_lt_ten (Nat.mod_lt _ (by decide))
  rw [row, digits, List.map_append, List.map_singleton, hdigit]
  rfl

theorem row_two (n : Nat) : row 2 n = [48 + n / 10 % 10, 48 + n % 10] := by
  rw [row_succ, row_succ]
  rfl

theorem row_four (n : Nat) :
    row 4 n = [48 + n / 1000 % 10, 48 + n / 100 % 10, 48 + n / 10 % 10, 48 + n % 10] := by
  have hhundred : n / 10 / 10 = n / 100 := Nat.div_div_eq_div_mul n 10 10
  have hthousand : n / 100 / 10 = n / 1000 := Nat.div_div_eq_div_mul n 100 10
  rw [row_succ, row_succ, row_two, hhundred, hthousand]
  rfl

theorem length_row (width n : Nat) : (row width n).length = width := by
  induction width generalizing n with
  | zero => rfl
  | succ width ih => rw [row_succ, List.length_append, ih, List.length_singleton]

theorem mem_row {width n b : Nat} (h : b ∈ row width n) : 48 ≤ b ∧ b ≤ 57 := by
  induction width generalizing n with
  | zero => cases h
  | succ width ih =>
    rw [row_succ, List.mem_append, List.mem_singleton] at h
    rcases h with h | rfl
    · exact ih h
    · omega

theorem digit?_add (d : Nat) (h : d < 10) : digit? (48 + d) = some d := by
  rw [digit?, if_pos (by omega), Nat.add_sub_cancel_left]

/-- **Digits read back**, as many of them as were written. -/
theorem number?_row (width n : Nat) : number? (row width n) = some (n % tenTo width) := by
  induction width generalizing n with
  | zero =>
    have hnone : n % tenTo 0 = 0 := Nat.mod_one n
    rw [hnone]
    rfl
  | succ width ih =>
    have hsplit : n % tenTo (width + 1) = n / 10 % tenTo width * 10 + n % 10 := by
      have hten : tenTo (width + 1) = 10 * tenTo width := Nat.mul_comm _ _
      rw [hten, Nat.mod_mul]
      omega
    unfold number? at ih ⊢
    rw [row_succ, List.foldlM_append, ih, hsplit]
    simp [digit?_add _ (Nat.mod_lt n (show 0 < 10 by decide))]

theorem number?_row_of_lt {width n : Nat} (h : n < tenTo width) : number? (row width n) = some n := by
  rw [number?_row, Nat.mod_eq_of_lt h]

/-! ## Dates -/

/-- A date with hyphens, given by what its digits read as. The first digit of the month is no `W`. -/
theorem readDate?_hyphens {a b c d m n e f : Nat} {date : Date} (hyear : number? [a, b, c, d] = some date.year)
    (hmonth : number? [m, n] = some date.month) (hday : number? [e, f] = some date.day)
    (hvalid : Calendar.isValid date = true) (hm : m ≠ 87) :
    readDate? [a, b, c, d, 45, m, n, 45, e, f] = some date := by
  rw [readDate?, hyear, hmonth, hday]
  · exact if_pos hvalid
  · omega

/-- The numbers of the characters of a date. -/
theorem map_writeDate (date : Date) :
    (writeDate date).map Char.toNat = row 4 date.year ++ 45 :: (row 2 date.month ++ 45 :: row 2 date.day) := by
  unfold writeDate
  simp only [List.map_append, List.map_cons]
  rfl

/-- **A date reads back.** -/
theorem readDate?_writeDate {date : Date} (h : Calendar.isValid date = true) :
    readDate? ((writeDate date).map Char.toNat) = some date := by
  obtain ⟨-, hyear, -, hmonth, -, hday⟩ := of_decide_eq_true h
  have hdays : Calendar.daysInMonth date.year date.month ≤ 31 := by
    unfold Calendar.daysInMonth
    split
    · split <;> decide
    · split <;> decide
  have hyears : number? (row 4 date.year) = some date.year := number?_row_of_lt (show date.year < 10000 by omega)
  have hmonths : number? (row 2 date.month) = some date.month := number?_row_of_lt (show date.month < 100 by omega)
  have hdate : number? (row 2 date.day) = some date.day := number?_row_of_lt (show date.day < 100 by omega)
  rw [row_four] at hyears
  rw [row_two] at hmonths hdate
  rw [map_writeDate, row_four, row_two, row_two]
  exact readDate?_hyphens hyears hmonths hdate h (by omega)

/-- The date ends where the hyphens say. -/
theorem dateLength_hyphens {a b c d m n e f s : Nat} (rest : List Nat) (hm : m ≠ 87) :
    dateLength ([a, b, c, d, 45, m, n, 45, e, f] ++ s :: rest) = 10 := by
  unfold dateLength
  dsimp only
  rw [if_neg (by simp), if_pos (by simp), if_neg (by simpa using hm)]

/-! ## Times of day -/

/-- The fraction of a second in a stamp. -/
def fractionRow (fraction : Nat) : List Nat := if fraction = 0 then [] else 46 :: row 6 fraction

/-- The numbers of the characters of a time of day. -/
def timeRow (hour minute second fraction : Nat) : List Nat :=
  row 2 hour ++ 58 :: (row 2 minute ++ 58 :: (row 2 second ++ fractionRow fraction))

theorem map_writeTime (micros : Nat) : (writeTime micros).map Char.toNat =
    timeRow (micros / 1000000 / 3600) (micros / 1000000 / 60 % 60) (micros / 1000000 % 60) (micros % 1000000) := by
  unfold writeTime timeRow fractionRow
  dsimp only
  simp only [List.map_append, List.map_cons]
  split <;> rfl

/-- Six digits are the whole fraction. -/
theorem readFraction?_row {fraction : Nat} (h : fraction < 1000000) (more : Bool) :
    readFraction? more (row 6 fraction) = some (fraction, more) := by
  have hlength := length_row 6 fraction
  have htake : (row 6 fraction).take 6 = row 6 fraction := List.take_of_length_le (Nat.le_of_eq hlength)
  have hdrop : (row 6 fraction).drop 6 = [] := List.drop_of_length_le (Nat.le_of_eq hlength)
  unfold readFraction?
  dsimp only
  rw [hlength, Nat.min_self, htake, hdrop, number?_row_of_lt h]
  simp [tenTo]

/-- Two digits and a colon. -/
theorem readNumbers?_colon {n : Nat} (hn : n < 100) (colons? : Option Bool) (hcolons : colons?.getD true = true)
    (more : Bool) (count b : Nat) (rest : List Nat) :
    readNumbers? more (count + 1) colons? (row 2 n ++ 58 :: b :: rest) =
      (readNumbers? more count (some true) (b :: rest)).map fun (ns, f, unread) => (n :: ns, f, unread) := by
  have hnumber : number? (row 2 n) = some n := number?_row_of_lt hn
  rw [row_two] at hnumber ⊢
  have hcolon : colons?.getD (58 == 58) = true := hcolons
  simp only [List.cons_append, List.nil_append, readNumbers?, hnumber, hcolon]
  cases readNumbers? more count (some true) (b :: rest) <;> rfl

/-- The last two digits, with a fraction or without. -/
theorem readNumbers?_last {n fraction : Nat} (hn : n < 100) (hf : fraction < 1000000) (more : Bool) (count : Nat) :
    readNumbers? more (count + 1) (some true) (row 2 n ++ fractionRow fraction) = some ([n], fraction, more) := by
  have hnumber : number? (row 2 n) = some n := number?_row_of_lt hn
  have hfraction := readFraction?_row hf more
  rw [row_two] at hnumber ⊢
  unfold fractionRow
  split
  · next h => simp [readNumbers?, hnumber, h]
  · obtain ⟨b, rest, hrow⟩ : ∃ b rest, row 6 fraction = b :: rest :=
      List.exists_cons_of_length_pos (by rw [length_row]; decide)
    rw [hrow] at hfraction ⊢
    simp [readNumbers?, hnumber, hfraction]

/-- **A time of day reads back.** -/
theorem readClock?_timeRow {hour minute second fraction : Nat} (hh : hour < 100) (hm : minute < 100)
    (hs : second < 100) (hf : fraction < 1000000) (more : Bool) :
    readClock? more (timeRow hour minute second fraction) = some ⟨hour, minute, second, fraction, more⟩ := by
  have hcons (n : Nat) (rest : List Nat) : ∃ b tail, row 2 n ++ rest = b :: tail := ⟨_, _, by rw [row_two]; rfl⟩
  have hlast := readNumbers?_last hs hf more 0
  obtain ⟨b, tail, hsecond⟩ := hcons second (fractionRow fraction)
  obtain ⟨c, tail', hminute⟩ := hcons minute (58 :: b :: tail)
  rw [hsecond] at hlast
  have hmiddle := readNumbers?_colon hm (some true) rfl more 1 b tail
  rw [hlast, hminute] at hmiddle
  have hfirst := readNumbers?_colon hh none rfl more 2 c tail'
  rw [hmiddle, ← hminute, ← hsecond] at hfirst
  unfold readClock?
  rw [show readNumbers? more 3 none (timeRow hour minute second fraction) = _ from hfirst]
  rfl

/-- A time of day is written with digits, colons and a point. -/
theorem mem_timeRow {hour minute second fraction b : Nat} (h : b ∈ timeRow hour minute second fraction) :
    46 ≤ b ∧ b ≤ 58 := by
  have hdigit {n width : Nat} (hb : b ∈ row width n) : 46 ≤ b ∧ b ≤ 58 := by
    have := mem_row hb
    omega
  unfold timeRow fractionRow at h
  simp only [List.mem_append, List.mem_cons] at h
  rcases h with h | rfl | h | rfl | h | h
  · exact hdigit h
  · decide
  · exact hdigit h
  · decide
  · exact hdigit h
  · split at h
    · cases h
    · rcases List.mem_cons.1 h with rfl | h
      · decide
      · exact hdigit h

/-- The numbers of the characters of the offset of UTC. -/
def utcRow : List Nat := [43, 48, 48, 58, 48, 48]

/-- **A time of day in UTC reads back.** -/
theorem readTime?_timeRow {hour minute second fraction : Nat} (hh : hour < 24) (hm : minute < 60) (hs : second < 60)
    (hf : fraction < 1000000) :
    readTime? (timeRow hour minute second fraction ++ utcRow) =
      some (((hour * 60 + minute) * 60 + second) * 1000000 + fraction, some 0) := by
  have hplain : ∀ b ∈ timeRow hour minute second fraction, (!(b == 43 || b == 45 || b == 90)) = true := by
    intro b hb
    have hsign : b ≠ 43 ∧ b ≠ 45 ∧ b ≠ 90 := by
      have := mem_timeRow hb
      omega
    simp [hsign]
  have hclock := readClock?_timeRow (show hour < 100 by omega) (show minute < 100 by omega) (show second < 100 by omega)
    hf true
  unfold readTime?
  dsimp only
  rw [List.takeWhile_append_of_pos hplain, List.dropWhile_append_of_pos hplain]
  have hbefore : (utcRow.takeWhile fun b => !(b == 43 || b == 45 || b == 90)) = [] := rfl
  have hafter : (utcRow.dropWhile fun b => !(b == 43 || b == 45 || b == 90)) = utcRow := rfl
  rw [hbefore, hafter, List.append_nil]
  show (readClock? true _ >>= _) = _
  rw [hclock]
  exact if_pos ⟨hh, hm, hs⟩

/-! ## Stamps -/

/-- The day and the microseconds of the day of a moment of the calendar. -/
theorem day_of_isInCalendar {micros : Int} (h : isInCalendar micros = true) :
    ∃ day rest : Nat, 1 ≤ day ∧ day ≤ Calendar.lastDay ∧ rest < Calendar.dayMicros ∧
      micros + (Calendar.epoch * Calendar.dayMicros : Nat) = (day * Calendar.dayMicros + rest : Nat) := by
  obtain ⟨hfirst, hlast⟩ := of_decide_eq_true h
  have hepoch : ((Calendar.epoch * Calendar.dayMicros : Nat) : Int) = 62135683200000000 := rfl
  have hmicros : Calendar.dayMicros = 86400000000 := rfl
  unfold firstMoment at hfirst
  unfold lastMoment at hlast
  unfold Calendar.lastDay
  rw [hepoch, hmicros]
  refine ⟨((micros + 62135683200000000) / 86400000000).toNat, ((micros + 62135683200000000) % 86400000000).toNat, ?_⟩
  omega

/-- A stamp, from the day of its moment and the microseconds of that day. -/
theorem map_writeList {micros : Int} {day rest : Nat} (hrest : rest < Calendar.dayMicros)
    (h : micros + (Calendar.epoch * Calendar.dayMicros : Nat) = (day * Calendar.dayMicros + rest : Nat)) :
    (writeList micros).map Char.toNat =
      (writeDate (Calendar.ofOrdinal day)).map Char.toNat ++ 84 :: ((writeTime rest).map Char.toNat ++ utcRow) := by
  have hday : ((day * Calendar.dayMicros + rest : Nat) / Calendar.dayMicros : Int).toNat = day := by
    unfold Calendar.dayMicros at *
    omega
  have htime : ((day * Calendar.dayMicros + rest : Nat) % Calendar.dayMicros : Int).toNat = rest := by
    unfold Calendar.dayMicros at *
    omega
  unfold writeList
  dsimp only
  rw [h, hday, htime]
  simp only [List.map_append, List.map_cons]
  rfl

/-- The microseconds of a day, put together from its hours, minutes, seconds and their fraction. -/
theorem micros_split (micros : Nat) :
    ((micros / 1000000 / 3600 * 60 + micros / 1000000 / 60 % 60) * 60 + micros / 1000000 % 60) * 1000000 +
      micros % 1000000 = micros := by
  omega

/-- **The bytes of a stamp read back.** -/
theorem readBytes?_stamp {day rest : Nat} (hday : 1 ≤ day) (hlast : day ≤ Calendar.lastDay)
    (hrest : rest < Calendar.dayMicros) :
    readBytes? ((writeDate (Calendar.ofOrdinal day)).map Char.toNat ++ 84 :: ((writeTime rest).map Char.toNat ++ utcRow)) =
      some ⟨(day * Calendar.dayMicros + rest : Nat), some 0⟩ := by
  let date := Calendar.ofOrdinal day
  have hvalid : Calendar.isValid date = true := Calendar.isValid_ofOrdinal hday hlast
  have hdate := readDate?_writeDate hvalid
  have htime : readTime? ((writeTime rest).map Char.toNat ++ utcRow) = some (rest, some 0) := by
    have hmicros : rest < 86400000000 := hrest
    rw [map_writeTime, readTime?_timeRow (by omega) (by omega) (by omega) (by omega), micros_split]
  generalize (writeTime rest).map Char.toNat ++ utcRow = after at htime ⊢
  have hten : ((writeDate date).map Char.toNat).length = 10 := by
    rw [map_writeDate, row_four, row_two, row_two]
    rfl
  have hcut : dateLength ((writeDate date).map Char.toNat ++ 84 :: after) = 10 := by
    obtain ⟨-, -, -, hmonth, -, -⟩ := of_decide_eq_true hvalid
    rw [map_writeDate, row_four, row_two, row_two]
    exact dateLength_hyphens after (by omega)
  show readBytes? ((writeDate date).map Char.toNat ++ 84 :: after) = _
  unfold readBytes?
  rw [if_neg (by rw [List.length_append, hten]; omega)]
  dsimp only
  rw [hcut, List.take_left' hten, List.drop_left' hten, hdate]
  show (readTime? after >>= _) = _
  rw [htime, Int.natCast_add]
  show some (⟨(Calendar.ordinal date * Calendar.dayMicros : Nat) + (rest : Int), some 0⟩ : Moment) = _
  rw [Calendar.ordinal_ofOrdinal hday]

/-- Stamps are ASCII texts. -/
theorem ascii_of_mem_writeList {micros : Int} (h : isInCalendar micros = true) {c : Char} (hc : c ∈ writeList micros) :
    c.toNat < 128 := by
  obtain ⟨day, rest, -, -, hrest, hsplit⟩ := day_of_isInCalendar h
  have hb := List.mem_map_of_mem (f := Char.toNat) hc
  rw [map_writeList hrest hsplit, map_writeDate, map_writeTime] at hb
  generalize c.toNat = b at hb ⊢
  have hdigit {n width : Nat} (hb : b ∈ row width n) : b < 128 := by
    have := mem_row hb
    omega
  simp only [List.mem_append, List.mem_cons] at hb
  rcases hb with (hb | rfl | hb | rfl | hb) | rfl | hb | hb
  · exact hdigit hb
  · decide
  · exact hdigit hb
  · decide
  · exact hdigit hb
  · decide
  · have := mem_timeRow hb
    omega
  · have hutc : ∀ b ∈ utcRow, b < 128 := by decide
    exact hutc b hb

/-- **A stamp that was written is read as the moment it was written for.** -/
theorem read?_write {micros : Int} (h : isInCalendar micros = true) :
    read? (write micros) = some ⟨micros + (Calendar.epoch * Calendar.dayMicros : Nat), some 0⟩ := by
  obtain ⟨day, rest, hday, hlast, hrest, hsplit⟩ := day_of_isInCalendar h
  have hchars : (write micros).toList = writeList micros := String.toList_ofList
  have hascii : ∀ c ∈ (write micros).toList, c.toNat < 128 := by
    rw [hchars]
    exact fun c hc => ascii_of_mem_writeList h hc
  rw [read?_of_ascii hascii, hchars, map_writeList hrest hsplit, readBytes?_stamp hday hlast hrest, hsplit]

end Stamp

end ActivityLog
