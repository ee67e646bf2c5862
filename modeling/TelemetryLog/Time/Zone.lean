import TelemetryLog.Time.Calendar
import TelemetryLog.Text.Digit

/-! Time zones as a text describes them: a standard time and, if there is one, a daylight time with
the two days of the year on which the clocks change. The text is a name and an offset to the west,
then a second name, its offset and the rules of the changes, each of them if it is there. -/

namespace TelemetryLog

open Text

inductive DayRule where
  /-- The day of this number, counted from one, where the leap day is never counted. -/
  | withoutLeapDay (n : Nat)
  /-- The day of this number, counted from zero. -/
  | ofYear (n : Nat)
  /-- A day of the week in a week of a month; the fifth week is the last one that has the day. -/
  | ofWeek (month week day : Nat)
  deriving DecidableEq, Repr

/-- A change of the clocks: the day, and the second of the day by the clock before the change. -/
structure ClockChange where
  rule : DayRule
  second : Int
  deriving DecidableEq, Repr

structure DaylightTime where
  offset : Int
  starts : ClockChange
  ends : ClockChange
  deriving DecidableEq, Repr

/-- A time zone; offsets are seconds ahead of universal time. -/
structure Zone where
  standard : Int
  daylight : Option DaylightTime
  deriving DecidableEq, Repr

namespace DayRule

def daysInto (year : Nat) : DayRule → Nat
  | .withoutLeapDay n => (n - 1) + (if Date.isLeapYear year ∧ 60 ≤ n then 1 else 0)
  | .ofYear n => n
  | .ofWeek month week day =>
    let first := Date.dayNumber ⟨year, month, 1⟩
    let earliest := (day + 7 - Date.weekday first) % 7
    let weeks := (Date.daysInMonth year month - earliest - 1) / 7
    first - Date.dayNumber ⟨year, 1, 1⟩ + earliest + 7 * min (week - 1) weeks

end DayRule

namespace Zone

def universal : Zone := ⟨0, none⟩

def firstYear : Nat := 1970

/-- The second, from the first day of the calendar on, at which the clocks change in a year; the
clock is `offset` ahead before the change. In a year before the first one they change in that one,
as many days into it as the rule says for the year itself. -/
def changeIn (change : ClockChange) (year : Nat) (offset : Int) : Int :=
  let day := Date.dayNumber ⟨max firstYear year, 1, 1⟩ + change.rule.daysInto year
  day * 86400 + change.second - offset

/-- Whether a time is in daylight time that lasts from `start` to `stop`; where it starts later in
the year than it ends, it lasts over the turn of the year. -/
def isBetween (start stop second : Int) : Bool :=
  if stop < start then !(stop ≤ second && second < start)
  else start ≤ second && second < stop

/-- The seconds that the zone is ahead at a second of universal time, counted from the first day of
the calendar. -/
def offsetAt (zone : Zone) (second : Int) : Int :=
  match zone.daylight with
  | none => zone.standard
  | some daylight =>
    let year := (Date.ofDayNumber (second / 86400).toNat).year
    let start := changeIn daylight.starts year zone.standard
    let stop := changeIn daylight.ends year daylight.offset
    if isBetween start stop second then daylight.offset else zone.standard

/-! Reading the text of a zone. -/

def greatestNumber : Nat := 18446744073709551615

/-- The greatest number that a part can be; the number after it starts again from zero. -/
def greatestPart : Nat := 65535

def readNumber? (s : List Char) : Option (Nat × List Char) :=
  let digits := s.takeWhile Char.isDigit
  if digits = [] then none
  else some (ofDigits (digits.filterMap asciiDigit?), s.dropWhile Char.isDigit)

def readPart? (s : List Char) : Option (Nat × List Char) :=
  (readNumber? s).map fun (n, s) => (min n greatestNumber % (greatestPart + 1), s)

def readNextPart (s : List Char) : Option Nat × List Char :=
  match s with
  | ':' :: rest =>
    match readPart? rest with
    | some (n, rest) => (some n, rest)
    | none => (none, s)
  | _ => (none, s)

def readClock? (s : List Char) : Option ((Nat × Nat × Nat) × List Char) := do
  let (hours, s) ← readPart? s
  let (minutes, s) := readNextPart s
  let (seconds, s) := if minutes.isSome then readNextPart s else (none, s)
  some ((hours, minutes.getD 0, seconds.getD 0), s)

def readSign (s : List Char) : Bool × List Char :=
  match s with
  | '-' :: rest => (true, rest)
  | '+' :: rest => (false, rest)
  | _ => (false, s)

/-- An offset at the start of a text, as seconds ahead, and the rest. The text counts to the
west. No part of it counts for more than it can be in a day. -/
def readOffset? (s : List Char) : Option (Int × List Char) :=
  let (negative, s) := readSign s
  (readClock? s).map fun ((hours, minutes, seconds), s) =>
    let n := 3600 * min hours 24 + 60 * min minutes 59 + min seconds 59
    (if negative then (n : Int) else -n, s)

/-- The rest of a text after the name that it starts with: letters, or other signs in angle
brackets, three at least. -/
def afterName? (s : List Char) : Option (List Char) :=
  match s with
  | '<' :: rest =>
    let isSign (c : Char) : Bool := c.isAlphanum || c = '+' || c = '-'
    match rest.dropWhile isSign with
    | '>' :: after => if 3 ≤ (rest.takeWhile isSign).length then some after else none
    | _ => none
  | _ => if 3 ≤ (s.takeWhile Char.isAlpha).length then some (s.dropWhile Char.isAlpha) else none

def afterPoint? : List Char → Option (Nat × List Char)
  | '.' :: rest => readPart? rest
  | _ => none

def readRule? (s : List Char) : Option (DayRule × List Char) :=
  match s with
  | 'J' :: rest => do
    let (n, rest) ← readNumber? rest
    if 1 ≤ n ∧ n ≤ 365 then some (.withoutLeapDay n, rest) else none
  | 'M' :: rest => do
    let (month, rest) ← readPart? rest
    let (week, rest) ← afterPoint? rest
    let (day, rest) ← afterPoint? rest
    if 1 ≤ month ∧ month ≤ 12 ∧ 1 ≤ week ∧ week ≤ 5 ∧ day ≤ 6 then
      some (.ofWeek month week day, rest)
    else none
  | _ => do
    let (n, rest) ← readNumber? s
    if n ≤ 365 then some (.ofYear n, rest) else none

/-- The time of a change at the start of a text, if there is one, and the rest; without one the
clocks change at two. It may be any number of hours before or after the start of the day. -/
def readTime? (s : List Char) : Option (Int × List Char) :=
  match s with
  | '/' :: rest =>
    let (negative, rest) := readSign rest
    (readClock? rest).map fun ((hours, minutes, seconds), rest) =>
      let n := 3600 * hours + 60 * minutes + seconds
      (if negative then -(n : Int) else n, rest)
  | _ => some (7200, s)

/-- A comma and a change at the start of a text, and the rest; the end of the text stands for a
usual rule. -/
def readChange? (usual : DayRule) (s : List Char) : Option (ClockChange × List Char) :=
  match s with
  | [] => some (⟨usual, 7200⟩, [])
  | ',' :: rest => do
    let (rule, rest) ← readRule? rest
    let (second, rest) ← readTime? rest
    some (⟨rule, second⟩, rest)
  | _ => none

/-- The two changes of a text; they are usually on the second Sunday of March and on the first of
November. -/
def readChanges? (s : List Char) : Option (ClockChange × ClockChange) := do
  let (starts, s) ← readChange? (.ofWeek 3 2 0) s
  let (ends, s) ← readChange? (.ofWeek 11 1 0) s
  if s = [] then some (starts, ends) else none

/-- The daylight time of a text that starts with its name; where no offset is given the clocks go
forward by an hour. -/
def readDaylight? (standard : Int) (s : List Char) : Option DaylightTime := do
  let s ← afterName? s
  let (offset, s) := (readOffset? s).getD (standard + 3600, s)
  let (starts, ends) ← readChanges? s
  some ⟨offset, starts, ends⟩

def ofText? (s : List Char) : Option Zone := do
  let s ← afterName? s
  let (standard, s) ← readOffset? s
  match s with
  | [] => some ⟨standard, none⟩
  | _ => (readDaylight? standard s).map fun daylight => ⟨standard, some daylight⟩

/-- The zone that a text describes; a text that describes none stands for universal time. -/
def ofText (s : String) : Zone := (ofText? s.toList).getD universal

end Zone

end TelemetryLog
