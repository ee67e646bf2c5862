import TelemetryLog.Proofs.Intake.Independence
import TelemetryLog.Proofs.Table.Cells

/-! The log that a message begins. A row has a value for each of its columns, so what a message puts
into a new file is a table, unless a column has a name that breaks a line into more cells, or a line
into two. -/

namespace TelemetryLog

/-- A data message with one sample and one column, whose name is written in the text as it is. -/
def Message.sampleOf (column : String) : Message :=
  ⟨.scalar (.text "cs/v1/data/m/s/t"),
    some (.text ("\x7b\"head\":\x7b\"fields\":[\x7b\"name\":\"" ++ column ++ "\"\x7d]\x7d," ++
      "\"data\":[\x7b\"time\":0,\"vals\":[1]\x7d]\x7d"))⟩

namespace Dispatcher

variable [Host] {zone : Zone} {d : Dispatcher} {tree : Tree} {identity : Identity}

theorem length_values_readData {payload : Payload} {outcome : Outcome} {names : List String}
    {row : Row} (hResult : (d.readData zone tree identity payload).result = .ok outcome)
    (hWritten : outcome.written? = some (names, row)) : row.values.length = names.length := by
  rw [readData] at hResult
  split at hResult
  · cases hResult
  · cases hResult
    cases hWritten
  · split at hResult
    · cases hResult
      cases hWritten
    · rename_i columns values hRow
      obtain ⟨writeError, rfl⟩ := writeRow_eq_ok hResult
      have hSame : columns = names ∧ values = row := by
        cases writeError <;> simp_all [Outcome.written?]
      obtain ⟨rfl, rfl⟩ := hSame
      obtain ⟨time, -, rfl, rfl⟩ := Row.ofBatch_eq_ok.mp hRow
      simp

/-- A row that has been written has a value for each of its columns. -/
theorem length_values_dispatch {topic : Value} {payload : Option Payload} {outcome : Outcome}
    {names : List String} {row : Row}
    (hResult : (d.dispatch zone tree identity topic payload).result = .ok outcome)
    (hWritten : outcome.written? = some (names, row)) : row.values.length = names.length := by
  simp only [dispatch] at hResult
  split at hResult
  · cases hResult
  · cases hResult
  · exact length_values_readData hResult hWritten
  · cases hResult
  · rw [readMetadata] at hResult
    split at hResult <;> cases hResult <;> cases hWritten
  · cases hResult
    cases hWritten

end Dispatcher

namespace Handled

/-- The path of the log leads, once a message has been handled, to where no file was before it. -/
def BeginsLog (path : Path) (before : Tree) (done : Handled) : Prop :=
  ∃ here, done.tree.locate path = .ok here ∧ before.content? here = none

end Handled

namespace Desk

section

variable [Host] {zone : Zone} {desk : Desk} {m : Message} {names : List String} {row : Row}

theorem length_values_take (hWritten : (desk.take zone m).written? = some (names, row)) :
    row.values.length = names.length := by
  obtain ⟨outcome, hOutcome, hRow⟩ := Option.bind_eq_some_iff.mp hWritten
  exact Dispatcher.length_values_dispatch (result_of_outcome hOutcome) hRow

/-- On a path that does not go up, a row begins the log when there is nothing at the path. -/
theorem beginsLog_iff (hWritten : (desk.take zone m).written? = some (names, row))
    (hPlain : ".." ∉ desk.intake.dispatcher.tablePath.parts) :
    (desk.take zone m).BeginsLog desk.intake.dispatcher.tablePath desk.tree ↔
      desk.tree.isThere desk.intake.dispatcher.tablePath = false := by
  have hAppends := appendsItsRow_take zone desk m
  rw [Handled.AppendsItsRow, hWritten] at hAppends
  obtain ⟨here, hRow⟩ := hAppends
  simp [Handled.BeginsLog, hRow.located, hRow.isThere hPlain]

/-- What a message puts into a file that was not there is a table, with the columns of the outcome
and its row, exactly when the name of every column can stand in a cell. -/
theorem new_log_formsTable_iff (zone : Zone) (desk : Desk) (m : Message) {names : List String}
    {row : Row} (hWritten : (desk.take zone m).written? = some (names, row))
    (hNew : (desk.take zone m).BeginsLog desk.intake.dispatcher.tablePath desk.tree) :
    ∃ content,
      (desk.take zone m).tree.readFile? desk.intake.dispatcher.tablePath = some content ∧
        (row.FormsTable names content.toList ↔
          ∀ name ∈ names, ',' ∉ name.toList ∧ '\n' ∉ name.toList) := by
  have hAppends := appendsItsRow_take zone desk m
  rw [Handled.AppendsItsRow, hWritten] at hAppends
  obtain ⟨here, hRow⟩ := hAppends
  obtain ⟨there, hThere, hNone⟩ := hNew
  obtain rfl : here = there := Except.ok.inj (hRow.located.symm.trans hThere)
  refine ⟨Row.headerText names ++ row.lineText names, ?_, ?_⟩
  · rw [hRow.readFile?, hRow.content_eq, hNone]
    simp [Row.contentWith, Row.linesText]
  · have hContent : (Row.headerText names ++ row.lineText names).toList =
        Row.header names ++ '\n' :: row.line names ++ ['\n'] := by
      simp [Row.headerText, Row.lineText]
    rw [hContent]
    exact Row.formsTable_iff (length_values_take hWritten)

end

attribute [local instance] Host.usual

/-- A sample begins a table with its one column. -/
theorem new_log_formsTable_sample :
    let desk := fresh LogWriter.usualPath
    let done := desk.take .universal .sample
    ∃ row content, done.written? = some (["A"], row) ∧
      done.BeginsLog LogWriter.usualPath desk.tree ∧
      done.tree.readFile? LogWriter.usualPath = some content ∧
        row.FormsTable ["A"] content.toList := by
  intro desk done
  have hNames : done.written?.map Prod.fst = some ["A"] := by decide +kernel
  obtain ⟨⟨names, row⟩, hWritten, rfl⟩ := Option.map_eq_some_iff.mp hNames
  have hNew : done.BeginsLog LogWriter.usualPath desk.tree :=
    (beginsLog_iff hWritten (by decide)).mpr (by decide)
  obtain ⟨content, hContent, hTable⟩ :=
    new_log_formsTable_iff .universal desk .sample hWritten hNew
  exact ⟨row, content, hWritten, hNew, hContent, hTable.mpr (by decide)⟩

/-- A comma in the name of a column leaves the header with more cells than the row. -/
theorem new_log_comma :
    let desk := fresh LogWriter.usualPath
    let done := desk.take .universal (.sampleOf "A,B")
    ∃ row, done.written? = some (["A,B"], row) ∧
      done.BeginsLog LogWriter.usualPath desk.tree ∧
      done.tree.readFile? LogWriter.usualPath =
        some "record_no,timestamp,A,B\n1,1970-01-01 00:00:00,1.0\n" ∧
      ¬ row.FormsTable ["A,B"]
        "record_no,timestamp,A,B\n1,1970-01-01 00:00:00,1.0\n".toList := by
  intro desk done
  have hNames : done.written?.map Prod.fst = some ["A,B"] := by decide +kernel
  obtain ⟨⟨names, row⟩, hWritten, rfl⟩ := Option.map_eq_some_iff.mp hNames
  have hNew : done.BeginsLog LogWriter.usualPath desk.tree :=
    (beginsLog_iff hWritten (by decide)).mpr (by decide)
  refine ⟨row, hWritten, hNew, by decide +kernel, ?_⟩
  rintro ⟨header, line, hLines, hHeader, -, -, -⟩
  -- The header has four cells, and the columns call for three.
  obtain rfl : "record_no,timestamp,A,B".toList = header := (List.cons.inj hLines).1
  exact absurd hHeader (by decide)

end Desk

end TelemetryLog
