import TelemetryLog.Time.Calendar
import TelemetryLog.Text.Digit

/-! Time stamps. A wall time is a date and a time of day; a stamp is a wall time that may know how
far the wall is ahead of universal time. Instants are counted in microseconds from the first day
of the calendar, by the wall or in universal time. -/

namespace TelemetryLog

open Text

structure WallTime where
  date : Date
  hour : Nat
  minute : Nat
  second : Nat
  microsecond : Nat
  deriving DecidableEq, Repr, Inhabited

/-- A wall time, and the microseconds that it is ahead of universal time if that is known. -/
structure Stamp where
  wall : WallTime
  offset : Option Int
  deriving DecidableEq, Repr, Inhabited

def perSecond : Int := 1000000

def perDay : Int := 86400 * perSecond

namespace WallTime

def IsValid (w : WallTime) : Prop :=
  w.date.IsValid ∧ w.hour < 24 ∧ w.minute < 60 ∧ w.second < 60 ∧ w.microsecond < 1000000

instance (w : WallTime) : Decidable w.IsValid := by unfold IsValid; infer_instance

def midnight (date : Date) : WallTime := ⟨date, 0, 0, 0, 0⟩

def secondOfDay (w : WallTime) : Nat := 3600 * w.hour + 60 * w.minute + w.second

def microseconds (w : WallTime) : Int :=
  w.date.dayNumber * perDay + w.secondOfDay * perSecond + w.microsecond

def ofParts (day secondOfDay microsecond : Nat) : WallTime :=
  ⟨.ofDayNumber day, secondOfDay / 3600, secondOfDay / 60 % 60, secondOfDay % 60, microsecond⟩

/-- The wall time so many microseconds after the first day of the calendar, if its year has four
digits and is not zero. -/
def ofMicroseconds? (t : Int) : Option WallTime :=
  let day := t / perDay
  if Date.firstDay ≤ day ∧ day ≤ Date.lastDay then
    some (ofParts day.toNat (t % perDay / perSecond).toNat (t % perSecond).toNat)
  else none

def dateChars (w : WallTime) : List Char :=
  paddedDigits 4 w.date.year ++ '-' :: paddedDigits 2 w.date.month ++
    '-' :: paddedDigits 2 w.date.day

def clockChars (w : WallTime) : List Char :=
  paddedDigits 2 w.hour ++ ':' :: paddedDigits 2 w.minute ++ ':' :: paddedDigits 2 w.second

/-- The text of a wall time in the log: to the second, with a blank between date and time. -/
def logChars (w : WallTime) : List Char := w.dateChars ++ ' ' :: w.clockChars

end WallTime

namespace Stamp

/-- The microseconds from the first day of the calendar to a stamp in universal time; a stamp that
does not know its offset counts as universal time. -/
def instant (s : Stamp) : Int := s.wall.microseconds - s.offset.getD 0

end Stamp

end TelemetryLog
