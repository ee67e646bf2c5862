import TelemetryLog.Record.Conversion

/-! Data records: a head that describes the columns of a table, and samples with a time and the
values of the columns. -/

namespace TelemetryLog

structure Column where
  name : String
  type : Option String
  process : Option String
  settable : Bool
  deriving DecidableEq, Repr, Inhabited

structure Sample where
  time : Stamp
  values : List Binary64
  deriving DecidableEq, Repr, Inhabited

structure Head where
  transaction : Option Int
  signature : Option Int
  columns : List Column
  deriving DecidableEq, Repr, Inhabited

/-- A batch of samples of one table. There is always a first one. -/
structure Batch where
  head : Head
  first : Sample
  others : List Sample
  deriving DecidableEq, Repr, Inhabited

def Column.ofValue (value : Value) : Checked Column := do
  let members ← value.toMembers .column
  let read := Checked.both
    (.both (optionalField "name" "" Value.toText members)
      (optionalField "type" none (Value.toOptional Value.toText) members))
    (.both (optionalField "process" none (Value.toOptional Value.toText) members)
      (optionalField "settable" false Value.toBool members))
  read.map fun ((name, type), process, settable) => ⟨name, type, process, settable⟩

def Sample.ofValue (value : Value) : Checked Sample := do
  let members ← value.toMembers .sample
  let read := Checked.both (requiredField "time" Value.toTime members)
    (requiredField "vals" Value.toNumbers members)
  read.map fun (time, values) => ⟨time, values⟩

def Head.ofValue (value : Value) : Checked Head := do
  let members ← value.toMembers .head
  let read := Checked.both
    (.both (optionalField "transaction" none (Value.toOptional Value.toInteger) members)
      (optionalField "signature" none (Value.toOptional Value.toInteger) members))
    (requiredField "fields" (Value.toList Column.ofValue) members)
  read.map fun ((transaction, signature), columns) => ⟨transaction, signature, columns⟩

namespace Batch

def samples (batch : Batch) : List Sample := batch.first :: batch.others

def columnNames (batch : Batch) : List String := batch.head.columns.map Column.name

/-- The samples that a value describes, of which there has to be one. -/
def samplesOfValue (value : Value) : Checked (Sample × List Sample) := do
  match ← value.toList Sample.ofValue with
  | first :: others => .ok (first, others)
  | [] => .refuse .noSamples

def ofValue (value : Value) : Checked Batch := do
  let members ← value.toMembers .batch
  let read := Checked.both (requiredField "head" Head.ofValue members)
    (requiredField "data" samplesOfValue members)
  read.map fun (head, first, others) => ⟨head, first, others⟩

end Batch

end TelemetryLog
