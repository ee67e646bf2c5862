import Mathlib.Tactic.IntervalCases
import TelemetryLog.Time.Calendar

/-! Dates and the numbers of their days. The days of the years that start in March are counted
first: each day number lies in one such year and has one place in it, from which the date is read.
Numbering a date and dating a number are inverse to each other, and the dates of the calendar are
those whose numbers lie between its first day and its last. -/

namespace TelemetryLog.Date

theorem isLeapYear_iff {year : Nat} :
    isLeapYear year = true ↔ year % 4 = 0 ∧ (year % 100 ≠ 0 ∨ year % 400 = 0) := by
  simp [isLeapYear]

/-- The number of days of a year that starts in March, whose last month is the next February. -/
def daysInYear (year : Nat) : Nat := if isLeapYear (year + 1) then 366 else 365

theorem daysInYear_le (year : Nat) : daysInYear year ≤ 366 := by
  unfold daysInYear
  split <;> omega

theorem daysBeforeYear_succ (year : Nat) :
    daysBeforeYear (year + 1) = daysBeforeYear year + daysInYear year := by
  have hCenturies : year / 100 ≤ year / 4 := Nat.div_le_div_left (by decide) (by decide)
  simp only [daysBeforeYear, daysInYear, isLeapYear_iff, Nat.succ_div, Nat.dvd_iff_mod_eq_zero]
  split_ifs <;> omega

theorem daysBeforeYear_mono {year year' : Nat} (h : year ≤ year') :
    daysBeforeYear year ≤ daysBeforeYear year' := by
  induction h with
  | refl => exact Nat.le_refl _
  | step _ ih =>
    rw [daysBeforeYear_succ]
    omega

/-- A day in a year that starts in March. -/
theorem exists_dayInYear (n : Nat) :
    ∃ year day, day < daysInYear year ∧ n = daysBeforeYear year + day := by
  induction n with
  | zero => exact ⟨0, 0, by decide, rfl⟩
  | succ n ih =>
    obtain ⟨year, day, hDay, rfl⟩ := ih
    by_cases hNext : day + 1 < daysInYear year
    · exact ⟨year, day + 1, hNext, rfl⟩
    · have hFirst : 0 < daysInYear (year + 1) := by
        unfold daysInYear
        split <;> omega
      refine ⟨year + 1, 0, hFirst, ?_⟩
      rw [daysBeforeYear_succ]
      omega

/-- The date of a day of a year that starts in March, both counted from zero. -/
def ofDayInYear (year day : Nat) : Date :=
  let month := (5 * day + 2) / 153
  let dayInMonth := day - daysBeforeMonth month + 1
  if month < 10 then ⟨year, month + 3, dayInMonth⟩ else ⟨year + 1, month - 9, dayInMonth⟩

/-- A day is dated by the eras, centuries, cycles of four years and years before it. A cycle ends
with the leap day, but a century only if an era ends with it. -/
theorem ofDayNumber_parts {era century cycle one day : Nat} (hCentury : century ≤ 3)
    (hCycle : cycle ≤ 24) (hOne : one ≤ 3) (hDay : day ≤ 365)
    (hLeapDay : day = 365 → one = 3 ∧ (cycle < 24 ∨ century = 3)) :
    ofDayNumber (146097 * era + (36524 * century + (1461 * cycle + (365 * one + day)))) =
      ofDayInYear (400 * era + 100 * century + 4 * cycle + one) day := by
  obtain ⟨inCycle, hInCycle⟩ : ∃ n, 365 * one + day = n := ⟨_, rfl⟩
  have hYears : min 3 (inCycle / 365) = one ∧ inCycle - 365 * one = day ∧ inCycle < 1461 ∧
      (inCycle = 1460 → cycle < 24 ∨ century = 3) := by omega
  clear hLeapDay hDay
  rw [hInCycle]
  obtain ⟨inCentury, hInCentury⟩ : ∃ n, 1461 * cycle + inCycle = n := ⟨_, rfl⟩
  have hCycles : inCentury / 1461 = cycle ∧ inCentury % 1461 = inCycle ∧ inCentury ≤ 36524 ∧
      (inCentury = 36524 → century = 3) := by omega
  rw [hInCentury]
  obtain ⟨inEra, hInEra⟩ : ∃ n, 36524 * century + inCentury = n := ⟨_, rfl⟩
  have hCenturies : min 3 (inEra / 36524) = century ∧ inEra - 36524 * century = inCentury ∧
      inEra < 146097 := by omega
  rw [hInEra]
  have hEras : (146097 * era + inEra) / 146097 = era ∧ (146097 * era + inEra) % 146097 = inEra := by
    omega
  simp only [ofDayNumber, hEras, hCenturies, hCycles, hYears]
  rfl

theorem ofDayNumber_eq {year day : Nat} (hDay : day < daysInYear year) :
    ofDayNumber (daysBeforeYear year + day) = ofDayInYear year day := by
  have hLeapDay : day ≤ 365 ∧ (day = 365 → year % 4 = 3 ∧
      (year % 100 / 4 < 24 ∨ year % 400 / 100 = 3)) := by
    unfold daysInYear at hDay
    split at hDay
    · rename_i hLeap
      have := isLeapYear_iff.mp hLeap
      omega
    · omega
  have hParts := @ofDayNumber_parts (year / 400) (year % 400 / 100) (year % 100 / 4) (year % 4) day
    (by omega) (by omega) (by omega) hLeapDay.1 hLeapDay.2
  have hYear : 400 * (year / 400) + 100 * (year % 400 / 100) + 4 * (year % 100 / 4) + year % 4 =
      year := by omega
  have hBefore : daysBeforeYear year = 146097 * (year / 400) + 36524 * (year % 400 / 100) +
      1461 * (year % 100 / 4) + 365 * (year % 4) := by
    unfold daysBeforeYear
    omega
  rwa [hYear, ← Nat.add_assoc, ← Nat.add_assoc, ← Nat.add_assoc, ← hBefore] at hParts

theorem daysBeforeMonth_le (day : Nat) : daysBeforeMonth ((5 * day + 2) / 153) ≤ day := by
  unfold daysBeforeMonth
  omega

theorem lt_daysBeforeMonth_succ (day : Nat) : day < daysBeforeMonth ((5 * day + 2) / 153 + 1) := by
  unfold daysBeforeMonth
  omega

theorem monthOf_eq {month day : Nat} (h : daysBeforeMonth month ≤ day)
    (hNext : day < daysBeforeMonth (month + 1)) : (5 * day + 2) / 153 = month := by
  unfold daysBeforeMonth at h hNext
  omega

/-- The year that starts in March in which a date lies. -/
def yearFromMarch (d : Date) : Nat := if d.month ≤ 2 then d.year - 1 else d.year

/-- The days before a date in the year that starts in March. -/
def dayFromMarch (d : Date) : Nat := daysBeforeMonth ((d.month + 9) % 12) + (d.day - 1)

theorem dayNumber_eq (d : Date) :
    dayNumber d = daysBeforeYear d.yearFromMarch + d.dayFromMarch :=
  Nat.add_assoc _ _ _

theorem fromMarch_ofDayInYear {year day : Nat} (hDay : day ≤ 365) :
    (ofDayInYear year day).yearFromMarch = year ∧ (ofDayInYear year day).dayFromMarch = day := by
  obtain ⟨month, hMonth⟩ : ∃ month, month = (5 * day + 2) / 153 := ⟨_, rfl⟩
  have hBefore := daysBeforeMonth_le day
  unfold ofDayInYear yearFromMarch dayFromMarch
  dsimp only
  rw [← hMonth] at hBefore ⊢
  split <;> dsimp only
  · have hIndex : (month + 3 + 9) % 12 = month := by omega
    rw [hIndex, if_neg (by omega)]
    omega
  · have hIndex : (month - 9 + 9) % 12 = month := by omega
    rw [hIndex, if_pos (by omega)]
    omega

theorem dayNumber_ofDayNumber (n : Nat) : dayNumber (ofDayNumber n) = n := by
  obtain ⟨year, day, hDay, rfl⟩ := exists_dayInYear n
  have hLe := daysInYear_le year
  obtain ⟨hYear, hInYear⟩ := @fromMarch_ofDayInYear year day (by omega)
  rw [ofDayNumber_eq hDay, dayNumber_eq, hYear, hInYear]

/-- Months from March on have their usual lengths, up to the one before February. -/
theorem daysBeforeMonth_succ (year : Nat) {month : Nat} (h : month ≤ 10) :
    daysBeforeMonth (month + 1) =
      daysBeforeMonth month + daysInMonth year (if month < 10 then month + 3 else month - 9) := by
  interval_cases month <;> rfl

/-- February comes last, so that it is as long as the year leaves it. -/
theorem daysInYear_eq (year : Nat) :
    daysInYear year = daysBeforeMonth 11 + daysInMonth (year + 1) 2 := by
  unfold daysInYear daysInMonth
  rw [if_pos rfl]
  split <;> rfl

/-- A day of a year is in one of the twelve months, and no later than on the last day of it. -/
theorem monthAndDay_ofDayInYear {year day : Nat} (hDay : day < daysInYear year) :
    let d := ofDayInYear year day
    1 ≤ d.month ∧ d.month ≤ 12 ∧ 1 ≤ d.day ∧ d.day ≤ daysInMonth d.year d.month := by
  obtain ⟨month, hMonth⟩ : ∃ month, month = (5 * day + 2) / 153 := ⟨_, rfl⟩
  have hLe := daysInYear_le year
  have hBefore := daysBeforeMonth_le day
  have hNext := lt_daysBeforeMonth_succ day
  unfold ofDayInYear
  dsimp only
  rw [← hMonth] at hBefore hNext ⊢
  rcases Nat.lt_or_ge month 11 with hEarly | hLast
  · have hLength := daysBeforeMonth_succ (if month < 10 then year else year + 1)
      (Nat.le_of_lt_succ hEarly)
    by_cases hThisYear : month < 10
    · simp only [if_pos hThisYear] at hLength ⊢
      omega
    · simp only [if_neg hThisYear] at hLength ⊢
      omega
  · obtain rfl : month = 11 := by omega
    rw [daysInYear_eq] at hDay
    simp only [if_neg (by decide : ¬ 11 < 10), Nat.reduceSub]
    omega

/-- The days before a date of the calendar in the year that starts in March are those of its month
and of those before. -/
theorem dayFromMarch_bounds {d : Date} (h : d.IsValid) :
    daysBeforeMonth ((d.month + 9) % 12) ≤ d.dayFromMarch ∧
      d.dayFromMarch < daysBeforeMonth ((d.month + 9) % 12 + 1) ∧
      d.dayFromMarch < daysInYear d.yearFromMarch := by
  obtain ⟨year, month, day⟩ := d
  obtain ⟨hYear, -, hMonth, hMonth', hDay, hDay'⟩ := h
  dsimp only at hYear hMonth hMonth' hDay hDay'
  unfold dayFromMarch yearFromMarch
  dsimp only
  by_cases hFebruary : month = 2
  · subst hFebruary
    have hLength := daysInYear_eq (year - 1)
    have hLe := daysInYear_le (year - 1)
    rw [Nat.sub_add_cancel hYear] at hLength
    have hTwelve : daysBeforeMonth 12 = 367 := rfl
    simp only [Nat.reduceAdd, Nat.reduceMod, if_pos (Nat.le_refl 2)]
    omega
  · have hEarly : (month + 9) % 12 ≤ 10 := by omega
    have hLength := daysBeforeMonth_succ year hEarly
    have hIndex : (if (month + 9) % 12 < 10 then (month + 9) % 12 + 3 else (month + 9) % 12 - 9) =
        month := by split <;> omega
    rw [hIndex] at hLength
    have hEleven : daysBeforeMonth ((month + 9) % 12 + 1) ≤ 337 := by
      unfold daysBeforeMonth
      omega
    have hYear (year : Nat) : 365 ≤ daysInYear year := by
      unfold daysInYear
      split <;> omega
    have := hYear (if month ≤ 2 then year - 1 else year)
    omega

theorem ofDayInYear_fromMarch {d : Date} (h : d.IsValid) :
    ofDayInYear d.yearFromMarch d.dayFromMarch = d := by
  obtain ⟨hFirst, hNext, -⟩ := dayFromMarch_bounds h
  have hMonth := monthOf_eq hFirst hNext
  obtain ⟨year, month, day⟩ := d
  obtain ⟨hYear, -, hMonth1, hMonth12, hDay, -⟩ := h
  dsimp only at hYear hMonth1 hMonth12 hDay hMonth
  unfold ofDayInYear
  rw [hMonth]
  unfold dayFromMarch yearFromMarch
  dsimp only
  have hDayInMonth : daysBeforeMonth ((month + 9) % 12) + (day - 1) -
      daysBeforeMonth ((month + 9) % 12) + 1 = day := by omega
  rw [hDayInMonth]
  by_cases hWinter : month ≤ 2
  · rw [if_neg (by omega), if_pos hWinter, Date.mk.injEq]
    omega
  · rw [if_pos (by omega), if_neg hWinter, Date.mk.injEq]
    omega

/-- The number of a date of the calendar dates it. -/
theorem ofDayNumber_dayNumber {d : Date} (h : d.IsValid) : ofDayNumber (dayNumber d) = d := by
  rw [dayNumber_eq, ofDayNumber_eq (dayFromMarch_bounds h).2.2, ofDayInYear_fromMarch h]

/-- The days of the calendar are those of its dates. -/
theorem isValid_ofDayNumber {n : Nat} (hFirst : firstDay ≤ n) (hLast : n ≤ lastDay) :
    (ofDayNumber n).IsValid := by
  obtain ⟨year, day, hDay, rfl⟩ := exists_dayInYear n
  have hMonthAndDay := monthAndDay_ofDayInYear hDay
  have hBefore : daysBeforeYear year < daysBeforeYear 10000 :=
    Nat.lt_of_le_of_lt (Nat.le_of_add_right_le hLast) (by decide)
  have hBelow : year < 10000 := by
    refine Nat.lt_of_not_le fun hAbove => ?_
    have := daysBeforeYear_mono hAbove
    omega
  have hFirstYear : year = 0 → 306 ≤ day := by
    rintro rfl
    have hZero : daysBeforeYear 0 = 0 := rfl
    have hNumber : firstDay = 306 := rfl
    omega
  have hLastYear : year = 9999 → day < 306 := by
    rintro rfl
    have hNumber : lastDay = daysBeforeYear 9999 + 305 := rfl
    omega
  have hYear : 1 ≤ (ofDayInYear year day).year ∧ (ofDayInYear year day).year ≤ 9999 := by
    unfold ofDayInYear
    dsimp only
    split <;> dsimp only <;> omega
  rw [ofDayNumber_eq hDay]
  exact ⟨hYear.1, hYear.2, hMonthAndDay⟩

theorem dayNumber_bounds {d : Date} (h : d.IsValid) :
    firstDay ≤ dayNumber d ∧ dayNumber d ≤ lastDay := by
  obtain ⟨hFirst, hNext, hInYear⟩ := dayFromMarch_bounds h
  obtain ⟨hYear, hYear', hMonth, hMonth', -⟩ := h
  have hNumber : firstDay = 306 := rfl
  have hNumber' : lastDay = daysBeforeYear 9999 + 305 := rfl
  have hMarch : d.yearFromMarch = if d.month ≤ 2 then d.year - 1 else d.year := rfl
  rw [dayNumber_eq]
  constructor
  · rcases Nat.eq_zero_or_pos d.yearFromMarch with hZero | hPos
    · have hTen : 10 ≤ (d.month + 9) % 12 := by
        split at hMarch <;> omega
      unfold daysBeforeMonth at hFirst
      omega
    · have hOne : daysBeforeYear 1 ≤ daysBeforeYear d.yearFromMarch := daysBeforeYear_mono hPos
      have : daysBeforeYear 1 = 365 := rfl
      omega
  · rcases Nat.lt_or_ge d.yearFromMarch 9999 with hBelow | hLast
    · have hNextYear : daysBeforeYear (d.yearFromMarch + 1) ≤ daysBeforeYear 9999 :=
        daysBeforeYear_mono hBelow
      rw [daysBeforeYear_succ] at hNextYear
      omega
    · have hTen : (d.month + 9) % 12 + 1 ≤ 10 ∧ d.yearFromMarch = 9999 := by
        split at hMarch <;> omega
      unfold daysBeforeMonth at hNext
      rw [hTen.2]
      omega

end TelemetryLog.Date
