import TelemetryLog.Text.Digit
import TelemetryLog.Time.Stamp
import TelemetryLog.Time.Zone

/-! Local time: the same instant by the clock of a zone. There is none when the instant, by the
clock of universal time or by that of the zone, lies outside the calendar, or when the clock of the
zone is a whole day or more away from universal time. -/

namespace TelemetryLog

open Text

/-- Why an instant has no local time. An offset is in microseconds. -/
inductive LocalFault where
  | beyondCalendar
  | wideOffset (offset : Int)
  deriving DecidableEq, Repr

namespace LocalFault

/-- A part of a span of time after the days, which is not told if there is none of it. -/
def partText (name : String) (n : Int) : String :=
  if n = 0 then "" else ", " ++ name ++ "=" ++ String.ofList (integerText n)

def spanText (span : Int) : String :=
  "datetime.timedelta(days=" ++ String.ofList (integerText (span / perDay)) ++
    partText "seconds" (span % perDay / perSecond) ++ partText "microseconds" (span % perSecond) ++
    ")"

def message : LocalFault → String
  | .beyondCalendar => "date value out of range"
  | .wideOffset offset =>
    "offset must be a timedelta strictly between -timedelta(hours=24) and " ++
      "timedelta(hours=24), not " ++ spanText offset ++ "."

end LocalFault

namespace Stamp

/-- The wall clock at an instant, unless it lies outside the calendar. -/
def wallAt (microseconds : Int) : Except LocalFault WallTime :=
  match WallTime.ofMicroseconds? microseconds with
  | some wall => .ok wall
  | none => .error .beyondCalendar

def toLocal (zone : Zone) (s : Stamp) : Except LocalFault Stamp := do
  let _ ← wallAt s.instant
  let offset := zone.offsetAt (s.instant / perSecond) * perSecond
  if perDay ≤ offset.natAbs then .error (.wideOffset offset)
  else
    let wall ← wallAt (s.instant + offset)
    .ok ⟨wall, some offset⟩

end Stamp

end TelemetryLog
