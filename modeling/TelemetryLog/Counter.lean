import TelemetryLog.Text.Digit

/-! The counter of data records, which only goes up. -/

namespace TelemetryLog

open Text

/-- The number of the last data record. -/
structure RecordCounter where
  value : Int
  deriving DecidableEq, Repr, Inhabited

namespace RecordCounter

def zero : RecordCounter := ⟨0⟩

def increment (counter : RecordCounter) : RecordCounter := ⟨counter.value + 1⟩

def digits (counter : RecordCounter) : String := String.ofList (integerText counter.value)

def literal (counter : RecordCounter) : String := "RecordCounter(value=" ++ counter.digits ++ ")"

end RecordCounter

end TelemetryLog
