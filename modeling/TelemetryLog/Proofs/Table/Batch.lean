import TelemetryLog.Table.Row

/-! What a batch shows in its row: the time of the first sample, and the columns that have both a
name and a value there. Batches that show the same have the same row, whatever else they hold. -/

namespace TelemetryLog

namespace Batch

/-- The number of columns that have both a name and a value in the first sample. -/
def width (batch : Batch) : Nat := min batch.columnNames.length batch.first.values.length

def shownNames (batch : Batch) : List String := batch.columnNames.take batch.width

def shownValues (batch : Batch) : List Binary64 := batch.first.values.take batch.width

/-- The row of a batch with a number, at a local time. -/
def rowAt (batch : Batch) (time : Stamp) (recordNumber : Int) : Row :=
  ⟨recordNumber, time, batch.shownValues⟩

@[simp] theorem length_shownNames (batch : Batch) : batch.shownNames.length = batch.width :=
  (List.length_take ..).trans (Nat.min_eq_left (Nat.min_le_left ..))

@[simp] theorem length_shownValues (batch : Batch) : batch.shownValues.length = batch.width :=
  (List.length_take ..).trans (Nat.min_eq_left (Nat.min_le_right ..))

@[simp] theorem length_values_rowAt (batch : Batch) (time : Stamp) (recordNumber : Int) :
    (batch.rowAt time recordNumber).values.length = batch.width :=
  batch.length_shownValues

/-- Two batches that differ in no more than later samples, columns without a partner, and what a
head tells beside the names. -/
structure ShowsSame (batch other : Batch) : Prop where
  time : other.first.time = batch.first.time
  names : other.shownNames = batch.shownNames
  values : other.shownValues = batch.shownValues

theorem ShowsSame.width {batch other : Batch} (h : batch.ShowsSame other) :
    other.width = batch.width := by
  rw [← length_shownNames, h.names, length_shownNames]

end Batch

namespace Row

variable {zone : Zone} {batch other : Batch} {recordNumber : Int}

theorem ofBatch_eq (zone : Zone) (batch : Batch) (recordNumber : Int) :
    ofBatch zone batch recordNumber = (batch.first.time.toLocal zone).map fun time =>
      (batch.shownNames, batch.rowAt time recordNumber) := by
  rw [ofBatch]
  cases batch.first.time.toLocal zone <;> rfl

theorem ofBatch_eq_ok {names : List String} {row : Row} :
    ofBatch zone batch recordNumber = .ok (names, row) ↔
      ∃ time, batch.first.time.toLocal zone = .ok time ∧ names = batch.shownNames ∧
        row = batch.rowAt time recordNumber := by
  rw [ofBatch_eq]
  cases batch.first.time.toLocal zone with
  | error fault => simp [Except.map]
  | ok time => simp [Except.map, eq_comm]

theorem ofBatch_congr (h : batch.ShowsSame other) :
    ofBatch zone other recordNumber = ofBatch zone batch recordNumber := by
  simp only [ofBatch_eq, Batch.rowAt, h.time, h.names, h.values]

end Row

end TelemetryLog
