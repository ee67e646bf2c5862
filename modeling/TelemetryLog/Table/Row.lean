import TelemetryLog.Record.Batch
import TelemetryLog.Time.Local
import TelemetryLog.Text.Split

/-! Rows of a table, and the lines of a log that hold them. A line has a record number, a time by
the wall clock, and one cell for each column that has both a name and a value. -/

namespace TelemetryLog

open Text

structure Row where
  recordNumber : Int
  time : Stamp
  values : List Binary64
  deriving DecidableEq, Repr, Inhabited

namespace Row

def joinCells (cells : List (List Char)) : List Char := joinWith [','] cells

def header (names : List String) : List Char :=
  joinCells ("record_no".toList :: "timestamp".toList :: names.map String.toList)

/-- The values of a row with the names of their columns, up to the end of the shorter list. -/
def named (names : List String) (row : Row) : List (String × Binary64) := names.zip row.values

def line (names : List String) (row : Row) : List Char :=
  joinCells (integerText row.recordNumber :: row.time.wall.logChars ::
    (row.named names).map fun (_, value) => value.chars)

/-- The columns and the row of the first sample of a batch, in local time; names and values are cut
to the shorter of the two lists. There is none when the time has no local time. -/
def ofBatch (zone : Zone) (batch : Batch) (recordNumber : Int) :
    Except LocalFault (List String × Row) := do
  let time ← batch.first.time.toLocal zone
  let count := min batch.columnNames.length batch.first.values.length
  .ok (batch.columnNames.take count, ⟨recordNumber, time, batch.first.values.take count⟩)

end Row

end TelemetryLog
