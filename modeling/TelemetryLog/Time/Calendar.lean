/-! Dates of the calendar that has a leap year every four years, except in three of four centuries,
and the number of each day. Days are counted from the first of March of the year zero: with the
leap day at the end of its year, the months before a day always have the same lengths. -/

namespace TelemetryLog

structure Date where
  year : Nat
  month : Nat
  day : Nat
  deriving DecidableEq, Repr, Inhabited

namespace Date

def isLeapYear (year : Nat) : Bool :=
  year % 4 = 0 && (year % 100 ≠ 0 || year % 400 = 0)

def daysInMonth (year month : Nat) : Nat :=
  if month = 2 then if isLeapYear year then 29 else 28
  else if month = 4 ∨ month = 6 ∨ month = 9 ∨ month = 11 then 30
  else 31

/-- The dates that the calendar has in the years with four digits. -/
def IsValid (d : Date) : Prop :=
  1 ≤ d.year ∧ d.year ≤ 9999 ∧ 1 ≤ d.month ∧ d.month ≤ 12 ∧
    1 ≤ d.day ∧ d.day ≤ daysInMonth d.year d.month

instance (d : Date) : Decidable d.IsValid := by unfold IsValid; infer_instance

/-- The days before the years that start in March, from the year zero on. -/
def daysBeforeYear (year : Nat) : Nat := 365 * year + year / 4 - year / 100 + year / 400

/-- The days of a year before its months, March being the month zero. -/
def daysBeforeMonth (month : Nat) : Nat := (153 * month + 2) / 5

def dayNumber (d : Date) : Nat :=
  let year := if d.month ≤ 2 then d.year - 1 else d.year
  daysBeforeYear year + daysBeforeMonth ((d.month + 9) % 12) + (d.day - 1)

/-- The date of a day: first the four centuries it lies in, then the century, the four years and
the year, of which the last is a day longer than the others. -/
def ofDayNumber (n : Nat) : Date :=
  let inEra := n % 146097
  let century := min 3 (inEra / 36524)
  let inCentury := inEra - 36524 * century
  let inCycle := inCentury % 1461
  let yearInCycle := min 3 (inCycle / 365)
  let inYear := inCycle - 365 * yearInCycle
  let year := 400 * (n / 146097) + 100 * century + 4 * (inCentury / 1461) + yearInCycle
  let month := (5 * inYear + 2) / 153
  let day := inYear - daysBeforeMonth month + 1
  if month < 10 then ⟨year, month + 3, day⟩ else ⟨year + 1, month - 9, day⟩

def firstDay : Nat := dayNumber ⟨1, 1, 1⟩

def lastDay : Nat := dayNumber ⟨9999, 12, 31⟩

def epochDay : Nat := dayNumber ⟨1970, 1, 1⟩

/-- The day of the week of a day, Sunday being zero. -/
def weekday (n : Nat) : Nat := (n + 3) % 7

end Date

end TelemetryLog
