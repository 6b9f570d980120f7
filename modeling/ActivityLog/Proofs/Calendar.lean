import ActivityLog.Calendar

/-!
# Days and dates

The date of a day has that day's number (`ordinal_ofOrdinal`) and exists as long as the calendar lasts
(`isValid_ofOrdinal`). The year of a day comes from cycles of 400, 100, 4 and single years (`daysBeforeYear_cycles`),
of which the last hundred years and the last year of a cycle may be a day longer; its month is searched for
(`monthDay_spec`).
-/

namespace ActivityLog.Calendar

/-- The days of a year. -/
def daysInYear (year : Nat) : Nat := if isLeap year then 366 else 365

/-- The last day of the calendar. -/
def lastDay : Nat := 3652059

/-! ## Years -/

theorem isLeap_iff (year : Nat) : isLeap year = true ↔ year % 4 = 0 ∧ (year % 100 ≠ 0 ∨ year % 400 = 0) := by
  simp [isLeap]

theorem le_daysInYear (year : Nat) : 365 ≤ daysInYear year := by
  unfold daysInYear
  split <;> omega

/-- The days before a year that is counted in cycles of 400, 100, 4 and single years. -/
theorem daysBeforeYear_cycles {a b c d : Nat} (hb : b ≤ 3) (hc : c ≤ 24) (hd : d ≤ 3) :
    daysBeforeYear (a * 400 + b * 100 + c * 4 + d + 1) = 146097 * a + 36524 * b + 1461 * c + 365 * d := by
  unfold daysBeforeYear
  have h4 : (a * 400 + b * 100 + c * 4 + d) / 4 = 100 * a + 25 * b + c := by omega
  have h100 : (a * 400 + b * 100 + c * 4 + d) / 100 = 4 * a + b := by omega
  have h400 : (a * 400 + b * 100 + c * 4 + d) / 400 = a := by omega
  simp only [Nat.add_sub_cancel, h4, h100, h400]
  omega

/-- The last year of a cycle of four has a leap day, unless a hundred years end with it that are not the last ones of
400. -/
theorem lastYear_cycles {a b c year : Nat} (hyear : year = a * 400 + b * 100 + c * 4 + 4) (hb : b ≤ 3) (hc : c ≤ 24)
    (h : c < 24 ∨ b = 3) :
    daysBeforeYear year = 146097 * a + 36524 * b + 1461 * c + 1095 ∧ daysInYear year = 366 := by
  subst hyear
  refine ⟨daysBeforeYear_cycles hb hc (Nat.le_refl 3), if_pos ?_⟩
  rw [isLeap_iff]
  omega

/-- **The year of a day** begins that many days before it. -/
theorem yearDay_spec {n : Nat} (hn : 1 ≤ n) :
    1 ≤ (yearDay n).1 ∧ daysBeforeYear (yearDay n).1 + (yearDay n).2 + 1 = n ∧
      (yearDay n).2 < daysInYear (yearDay n).1 := by
  let a := (n - 1) / 146097
  let r := (n - 1) % 146097
  let b := r / 36524
  let s := r % 36524
  let c := s / 1461
  let t := s % 1461
  let d := t / 365
  let year := a * 400 + b * 100 + c * 4 + d + 1
  have hyear : yearDay n = if d = 4 ∨ b = 4 then (year - 1, 365) else (year, t % 365) := rfl
  have hbounds : b ≤ 4 ∧ c ≤ 24 ∧ d ≤ 4 := by omega
  rw [hyear]
  by_cases hb : b = 4
  · -- The last day of 400 years.
    have hrest : c = 0 ∧ d = 0 := by omega
    obtain ⟨hbefore, hdays⟩ := lastYear_cycles (a := a) (b := 3) (c := 24) (show year - 1 = _ by omega) (by omega)
      (by omega) (.inr rfl)
    rw [if_pos (.inr hb)]
    dsimp only
    omega
  by_cases hd : d = 4
  · -- The last day of four years, which are not those that end a hundred years.
    obtain ⟨hbefore, hdays⟩ := lastYear_cycles (a := a) (b := b) (c := c) (show year - 1 = _ by omega) (by omega)
      (by omega) (.inl (by omega))
    rw [if_pos (.inl hd)]
    dsimp only
    omega
  · have hbefore : daysBeforeYear year = 146097 * a + 36524 * b + 1461 * c + 365 * d :=
      daysBeforeYear_cycles (by omega) (by omega) (by omega)
    have hdays := le_daysInYear year
    rw [if_neg (by omega)]
    dsimp only
    omega

/-- The calendar ends with the year 9999. -/
theorem lastDay_le_daysBeforeYear {year : Nat} (h : 10000 ≤ year) : lastDay ≤ daysBeforeYear year := by
  obtain ⟨z, rfl⟩ := Nat.exists_eq_add_of_le h
  have h4 : 2499 ≤ (9999 + z) / 4 := by omega
  have h100 : (9999 + z) / 100 ≤ 99 + z := by omega
  have h400 : 24 ≤ (9999 + z) / 400 := by omega
  have hyear : 10000 + z - 1 = 9999 + z := by omega
  unfold lastDay daysBeforeYear
  dsimp only
  rw [hyear]
  omega

/-! ## Months -/

theorem daysBeforeMonth_succ (year : Nat) {month : Nat} (hm : 1 ≤ month) :
    daysBeforeMonth year (month + 1) = daysBeforeMonth year month + daysInMonth year month := by
  obtain ⟨m, rfl⟩ := Nat.exists_eq_add_of_le' hm
  rfl

/-- Twelve months make a year. -/
theorem daysBeforeMonth_end (year : Nat) : daysBeforeMonth year 13 = daysInYear year := by
  unfold daysInYear
  simp only [daysBeforeMonth, daysInMonth]
  cases isLeap year <;> rfl

/-- **The search for a month** ends in the month that has the day, if it lies within the months searched. -/
theorem monthDay_spec (year fuel month n : Nat) (hm : 1 ≤ month)
    (hn : daysBeforeMonth year month + n < daysBeforeMonth year (month + fuel + 1)) :
    let found := monthDay year fuel month n
    month ≤ found.1 ∧ found.1 ≤ month + fuel ∧ 1 ≤ found.2 ∧ found.2 ≤ daysInMonth year found.1 ∧
      daysBeforeMonth year found.1 + found.2 = daysBeforeMonth year month + n + 1 := by
  induction fuel generalizing month n with
  | zero =>
    rw [Nat.add_zero, daysBeforeMonth_succ year hm] at hn
    unfold monthDay
    dsimp only
    omega
  | succ fuel ih =>
    unfold monthDay
    split
    · dsimp only
      omega
    · next hlate =>
      have hsucc := daysBeforeMonth_succ year hm
      have hnext := ih (month + 1) (n - daysInMonth year month) (by omega) (by
        rw [hsucc, show month + 1 + fuel + 1 = month + (fuel + 1) + 1 by omega]
        omega)
      dsimp only at hnext ⊢
      omega

/-! ## Dates -/

/-- The date of a day: its year is the year of the day, and its month has the day. -/
theorem ofOrdinal_spec {n : Nat} (hn : 1 ≤ n) :
    let d := ofOrdinal n
    1 ≤ d.year ∧ 1 ≤ d.month ∧ d.month ≤ 12 ∧ 1 ≤ d.day ∧ d.day ≤ daysInMonth d.year d.month ∧
      daysBeforeYear d.year + daysBeforeMonth d.year d.month + d.day = n := by
  obtain ⟨hyear, hdays, hwithin⟩ := yearDay_spec hn
  have hfirst : daysBeforeMonth (yearDay n).1 1 = 0 := rfl
  have hfound : daysBeforeMonth (yearDay n).1 1 + (yearDay n).2 < daysBeforeMonth (yearDay n).1 13 := by
    rw [daysBeforeMonth_end, hfirst]
    omega
  have hmonth := monthDay_spec (yearDay n).1 11 1 (yearDay n).2 (Nat.le_refl 1) hfound
  unfold ofOrdinal
  dsimp only at hmonth ⊢
  omega

/-- **The date of a day has that day's number.** -/
theorem ordinal_ofOrdinal {n : Nat} (hn : 1 ≤ n) : ordinal (ofOrdinal n) = n := (ofOrdinal_spec hn).2.2.2.2.2

/-- A day of the calendar has a date that exists. -/
theorem isValid_ofOrdinal {n : Nat} (hn : 1 ≤ n) (hlast : n ≤ lastDay) : isValid (ofOrdinal n) = true := by
  obtain ⟨hyear, hmonth, hmonths, hday, hdays, hnumber⟩ := ofOrdinal_spec hn
  have hyears : (ofOrdinal n).year ≤ 9999 := Nat.le_of_not_lt fun hlate => by
    have hend := lastDay_le_daysBeforeYear hlate
    omega
  exact decide_eq_true ⟨hyear, hyears, hmonth, hmonths, hday, hdays⟩

/-- Leap days and the ends of cycles. -/
example : ofOrdinal 59 = ⟨1, 2, 28⟩ ∧ ofOrdinal 146097 = ⟨400, 12, 31⟩ ∧ ofOrdinal epoch = ⟨1970, 1, 1⟩ ∧
    ofOrdinal 730179 = ⟨2000, 2, 29⟩ ∧ ofOrdinal lastDay = ⟨9999, 12, 31⟩ := by decide

end ActivityLog.Calendar
