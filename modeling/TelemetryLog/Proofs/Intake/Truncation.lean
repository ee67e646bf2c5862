import TelemetryLog.Proofs.Dispatch.Answer
import TelemetryLog.Proofs.Intake.Muted
import TelemetryLog.Proofs.Table.Cells

/-! What a data message shows. The columns that have both a name and a value are those of its row,
of the line and the header in the log, and of the report; nothing else of the batch is seen, so two
messages that show the same are taken alike. -/

namespace TelemetryLog

open Text

namespace Report

/-- The entry that tells the text of a value and the name of its column. -/
def valueEntry (name : String) (cell : List Char) : Entry :=
  .info ("  > " ++ name ++ ": " ++ String.ofList cell)

/-- The entries for the values of a row: each name is told with the cell that it has in the line. -/
def valueEntries (names : List String) (row : Row) : List Entry :=
  List.zipWith valueEntry names ((splitAt ',' (row.line names)).drop 2)

/-- The entries of a report of a row, up to the one that tells whether the row was written. -/
def rowEntries (identity : Identity) (names : List String) (row : Row) : List Entry :=
  [.info "--- NEW RECORD PARSED ---", .info ("+ Topic Data: " ++ identity.text),
    .info "+ JSON Data Parsed Successfully:",
    .info ("  > RecordNo: " ++ String.ofList (integerText row.recordNumber)),
    .info ("  > Timestamp: " ++ String.ofList row.time.wall.logChars)] ++ valueEntries names row

variable {identity : Identity}

theorem valueEntries_eq (names : List String) (row : Row) :
    valueEntries names row =
      (row.named names).map fun (name, value) => valueEntry name value.chars := by
  have hCells : (splitAt ',' (row.line names)).drop 2 =
      (row.cut names).values.map Binary64.chars := by
    rw [(Row.splitAt_line names row).2]
    rfl
  rw [valueEntries, hCells, List.zipWith_map_right, ← Row.named_cut, Row.named,
    List.map_zip_eq_zipWith]
  rfl

theorem told_asLine (threshold : Threshold) (entries : List Entry) :
    told threshold (entries.map Entry.asLine) = (entries, none) := by
  induction entries with
  | nil => rfl
  | cons entry rest ih => simp only [List.map_cons, told, Entry.asLine, ih]

theorem exists_written_eq (tablePath writeError : Option String) :
    ∃ last : Entry, written tablePath writeError = last.asLine := by
  rw [written]
  split
  · exact ⟨_, rfl⟩
  · exact ⟨_, rfl⟩

theorem ofRow_eq (names : List String) (row : Row) :
    ofRow names row =
      ([Entry.info ("  > RecordNo: " ++ String.ofList (integerText row.recordNumber)),
        Entry.info ("  > Timestamp: " ++ String.ofList row.time.wall.logChars)] ++
        valueEntries names row).map Entry.asLine := by
  rw [valueEntries_eq, List.map_append, List.map_map]
  rfl

/-- There are words for all of the report of a row, and one entry comes after those of the row. -/
theorem told_dataHandled [Host] (threshold : Threshold) (hKind : identity.kind = .data)
    (names : List String) (row : Row) (tablePath writeError : Option String) :
    ∃ last, written tablePath writeError = last.asLine ∧
      told threshold (ofOutcome (.dataHandled identity names row tablePath writeError)) =
        (rowEntries identity names row ++ [last], none) := by
  obtain ⟨last, hLast⟩ := exists_written_eq tablePath writeError
  have hSource : source identity = (Entry.info ("+ Topic Data: " ++ identity.text)).asLine := by
    simp only [source, hKind]
  have hLines : ofOutcome (.dataHandled identity names row tablePath writeError) =
      (rowEntries identity names row ++ [last]).map Entry.asLine := by
    rw [ofOutcome, hSource, hLast, ofRow_eq, rowEntries]
    simp only [List.map_append, List.map_cons, List.map_nil, List.cons_append, List.nil_append]
    rfl
  exact ⟨last, hLast, by rw [hLines, told_asLine]⟩

end Report

namespace Dispatcher

variable [Host] {zone : Zone} {d : Dispatcher} {tree : Tree} {identity : Identity}
  {payload : Payload}
  {batch other : Batch} {time : Stamp}

theorem dispatch_eq_writeRow (topic : Value) (hKind : identity.kind = .data)
    (hBatch : Batch.ofPayload payload = .ok batch)
    (hTime : batch.first.time.toLocal zone = .ok time) :
    d.dispatch zone tree identity topic (some payload) =
      d.count.writeRow tree identity batch.shownNames
        (batch.rowAt time (d.counter.value + 1)) := by
  have hRow : Row.ofBatch zone batch d.count.counter.value =
      .ok (batch.shownNames, batch.rowAt time (d.counter.value + 1)) :=
    Row.ofBatch_eq_ok.mpr ⟨time, hTime, rfl, rfl⟩
  simp only [dispatch, hKind, readData, hBatch, hRow]

/-- Payloads that show the same are dispatched alike, if there is a local time. -/
theorem dispatch_congr (topic : Value) {payload' : Payload} (hKind : identity.kind = .data)
    (hBatch : Batch.ofPayload payload = .ok batch) (hOther : Batch.ofPayload payload' = .ok other)
    (hSame : batch.ShowsSame other) (hTime : batch.first.time.toLocal zone = .ok time) :
    d.dispatch zone tree identity topic (some payload') =
      d.dispatch zone tree identity topic (some payload) := by
  have hTime' : other.first.time.toLocal zone = .ok time := by rw [hSame.time, hTime]
  rw [dispatch_eq_writeRow topic hKind hBatch hTime, dispatch_eq_writeRow topic hKind hOther hTime',
    Batch.rowAt, Batch.rowAt, hSame.names, hSame.values]

end Dispatcher

namespace Batch

variable [Host]

/-- Names and a row hold the columns of a batch that have both a name and a value; and all of them,
no more and no less, are in the header, in the line and in the report of the row. -/
structure ShownBy (batch : Batch) (names : List String) (row : Row) : Prop where
  names_eq : names = batch.columnNames.take batch.width
  values_eq : row.values = batch.first.values.take batch.width
  length : names.length = batch.width ∧ row.values.length = batch.width
  header : Row.header names = Row.joinCells (Row.headerCells names)
  line : splitAt ',' (row.line names) = row.cells
  entries : (Report.valueEntries names row).length = batch.width
  report : ∀ identity tablePath writeError threshold, identity.kind = .data →
    ∃ last, Report.written tablePath writeError = last.asLine ∧
      Report.told threshold
          (Report.ofOutcome (.dataHandled identity names row tablePath writeError)) =
        (Report.rowEntries identity names row ++ [last], none)

theorem shownBy_rowAt (batch : Batch) (time : Stamp) (recordNumber : Int) :
    batch.ShownBy batch.shownNames (batch.rowAt time recordNumber) := by
  have hLength : (batch.rowAt time recordNumber).values.length = batch.shownNames.length := by
    rw [length_values_rowAt, length_shownNames]
  have hLine := (Row.splitAt_line batch.shownNames (batch.rowAt time recordNumber)).2
  rw [Row.cut_eq_self hLength] at hLine
  have hEntries : (Report.valueEntries batch.shownNames (batch.rowAt time recordNumber)).length =
      batch.width := by
    rw [Report.valueEntries_eq, List.length_map, Row.named, List.length_zip, hLength,
      Nat.min_self, length_shownNames]
  exact {
    names_eq := rfl
    values_eq := rfl
    length := ⟨batch.length_shownNames, batch.length_shownValues⟩
    header := rfl
    line := hLine
    entries := hEntries
    report := fun identity tablePath writeError threshold hKind =>
      Report.told_dataHandled threshold hKind _ _ tablePath writeError }

theorem exists_ofPayload_eq {payload : Payload} {time : Stamp} {names : List String}
    {values : List Binary64}
    (h : (ofPayload payload).toOption.map
      (fun batch => (batch.first.time, batch.shownNames, batch.shownValues)) =
        some (time, names, values)) :
    ∃ batch, ofPayload payload = .ok batch ∧ batch.first.time = time ∧
      batch.shownNames = names ∧ batch.shownValues = values := by
  cases hBatch : ofPayload payload with
  | error fault =>
    rw [hBatch] at h
    cases h
  | ok batch =>
    rw [hBatch] at h
    cases h
    exact ⟨batch, rfl, rfl, rfl, rfl⟩

end Batch

namespace Desk

section

variable [Host]

/-- What comes of a message of which names and a row are shown: they are in its outcome and in the
journal, and at the end of the log if they are said to be written. -/
structure Shows (zone : Zone) (desk : Desk) (m : Message) (names : List String) (row : Row) :
    Prop where
  outcome : ∀ outcome, (desk.take zone m).outcome = some outcome →
    ∃ writeError, outcome = .dataHandled m.identity names row
      (some desk.intake.dispatcher.tablePath.text) writeError
  journal : ∀ outcome, (desk.take zone m).outcome = some outcome →
    ∃ last every accounts, (desk.take zone m).journal =
      (desk.dispatched zone m).journal ++ (Report.rowEntries m.identity names row ++ [last]) ++
        Intake.statsEntries every accounts
  written : ∀ written, (desk.take zone m).written? = some written →
    written = (names, row) ∧
      ∃ here, RowAppended desk.intake.dispatcher.tablePath names row desk.tree
        (desk.take zone m).tree here

variable {zone : Zone} {desk : Desk} {m : Message} {payload : Payload} {batch : Batch}
  {time : Stamp}

theorem outcome_rowAt {outcome : Outcome} (hKind : m.identity.kind = .data)
    (hPayload : m.payload = some payload) (hBatch : Batch.ofPayload payload = .ok batch)
    (hTime : batch.first.time.toLocal zone = .ok time)
    (h : (desk.take zone m).outcome = some outcome) :
    ∃ writeError, outcome = .dataHandled m.identity batch.shownNames
      (batch.rowAt time (desk.intake.dispatcher.counter.value + 1))
      (some desk.intake.dispatcher.tablePath.text) writeError := by
  have hResult := result_of_outcome h
  rw [dispatched, hPayload, Dispatcher.dispatch_eq_writeRow m.topic hKind hBatch hTime] at hResult
  obtain ⟨writeError, rfl⟩ := Dispatcher.writeRow_eq_ok hResult
  exact ⟨writeError, rfl⟩

theorem shows_rowAt (hKind : m.identity.kind = .data) (hPayload : m.payload = some payload)
    (hBatch : Batch.ofPayload payload = .ok batch)
    (hTime : batch.first.time.toLocal zone = .ok time) :
    Shows zone desk m batch.shownNames
      (batch.rowAt time (desk.intake.dispatcher.counter.value + 1)) := by
  refine ⟨fun outcome => outcome_rowAt hKind hPayload hBatch hTime, ?_, ?_⟩
  · intro outcome h
    obtain ⟨writeError, rfl⟩ := outcome_rowAt hKind hPayload hBatch hTime h
    obtain ⟨last, -, hTold⟩ := Report.told_dataHandled desk.intake.threshold hKind batch.shownNames
      (batch.rowAt time (desk.intake.dispatcher.counter.value + 1))
      (some desk.intake.dispatcher.tablePath.text) writeError
    obtain ⟨every, accounts, hJournal⟩ := journal_of_told (result_of_outcome h) hTold
    exact ⟨last, every, accounts, hJournal⟩
  · rintro ⟨names, row⟩ hWritten
    have hAppends := appendsItsRow_take zone desk m
    rw [Handled.AppendsItsRow, hWritten] at hAppends
    obtain ⟨outcome, h, hRow⟩ := Option.bind_eq_some_iff.mp hWritten
    obtain ⟨writeError, rfl⟩ := outcome_rowAt hKind hPayload hBatch hTime h
    cases writeError with
    | some error => cases hRow
    | none =>
      cases hRow
      exact ⟨rfl, hAppends⟩

theorem take_congr {payload' : Payload} {other : Batch} (hKind : m.identity.kind = .data)
    (hPayload : m.payload = some payload) (hBatch : Batch.ofPayload payload = .ok batch)
    (hTime : batch.first.time.toLocal zone = .ok time)
    (hOther : Batch.ofPayload payload' = .ok other) (hSame : batch.ShowsSame other) :
    desk.take zone { m with payload := some payload' } = desk.take zone m := by
  have hDispatch := @Dispatcher.dispatch_congr _ zone desk.intake.dispatcher desk.tree m.identity
    payload batch other time m.topic payload' hKind hBatch hOther hSame hTime
  unfold Message.identity at hDispatch
  simp only [take, Intake.handle, hPayload, hDispatch]

/-- The columns of a batch that have both a name and a value are those of its row, if there is a
local time; and they are just those that the header, the line and the report of the row have. What
becomes of a message hangs on nothing else of its batch. -/
theorem truncations_agree (zone : Zone) (batch : Batch) :
    (∀ number, Row.ofBatch zone batch number = (batch.first.time.toLocal zone).map
      fun time => (batch.shownNames, batch.rowAt time number)) ∧
    (∀ other, batch.ShowsSame other →
      ∀ number, Row.ofBatch zone other number = Row.ofBatch zone batch number) ∧
    ∀ time, batch.first.time.toLocal zone = .ok time →
      (∀ number, batch.ShownBy batch.shownNames (batch.rowAt time number)) ∧
      ∀ (desk : Desk) (m : Message) (payload : Payload), m.identity.kind = .data →
        m.payload = some payload → Batch.ofPayload payload = .ok batch →
        Shows zone desk m batch.shownNames
          (batch.rowAt time (desk.intake.dispatcher.counter.value + 1)) ∧
        ∀ payload' other, Batch.ofPayload payload' = .ok other → batch.ShowsSame other →
          desk.take zone { m with payload := some payload' } = desk.take zone m := by
  refine ⟨Row.ofBatch_eq zone batch, fun other hSame number => Row.ofBatch_congr hSame, ?_⟩
  intro time hTime
  refine ⟨batch.shownBy_rowAt time, ?_⟩
  intro desk m payload hKind hPayload hBatch
  refine ⟨shows_rowAt hKind hPayload hBatch hTime, ?_⟩
  intro payload' other hOther hSame
  exact take_congr hKind hPayload hBatch hTime hOther hSame

end

attribute [local instance] Host.usual

/-- One message has a name without a value and a later sample, and the other one a value without a
name: they are taken alike, as a row with one column. -/
theorem truncations_agree_partners :
    let payload : Payload := .text ("\x7b\"head\":\x7b\"fields\":[\x7b\"name\":\"A\"\x7d," ++
      "\x7b\"name\":\"B\"\x7d]\x7d,\"data\":[\x7b\"time\":0,\"vals\":[1]\x7d," ++
      "\x7b\"time\":1,\"vals\":[2]\x7d]\x7d")
    let payload' : Payload := .text ("\x7b\"head\":\x7b\"fields\":[\x7b\"name\":\"A\"\x7d]\x7d," ++
      "\"data\":[\x7b\"time\":0,\"vals\":[1,7]\x7d]\x7d")
    let m : Message := ⟨.scalar (.text "cs/v1/data/m/s/t"), some payload⟩
    let desk := fresh LogWriter.usualPath
    ∃ batch other, Batch.ofPayload payload = .ok batch ∧ Batch.ofPayload payload' = .ok other ∧
      batch.ShowsSame other ∧ m.identity.kind = .data ∧
      ∃ time, batch.first.time.toLocal .universal = .ok time ∧
        Row.ofBatch .universal batch 1 = .ok (["A"], batch.rowAt time 1) ∧
        Row.ofBatch .universal other 1 = .ok (["A"], batch.rowAt time 1) ∧
        batch.ShownBy ["A"] (batch.rowAt time 1) ∧
        Shows .universal desk m ["A"] (batch.rowAt time 1) ∧
        (desk.take .universal m).written? = some (["A"], batch.rowAt time 1) ∧
        desk.take .universal { m with payload := some payload' } = desk.take .universal m := by
  intro payload payload' m desk
  let time : Stamp := ⟨.midnight ⟨1970, 1, 1⟩, some 0⟩
  let one : Binary64 := .finite false 4503599627370496 (-52)
  obtain ⟨batch, hBatch, hTime, hNames, hValues⟩ :=
    @Batch.exists_ofPayload_eq _ payload time ["A"] [one] (by decide +kernel)
  obtain ⟨other, hOther, hTime', hNames', hValues'⟩ :=
    @Batch.exists_ofPayload_eq _ payload' time ["A"] [one] (by decide +kernel)
  have hSame : batch.ShowsSame other :=
    ⟨hTime'.trans hTime.symm, hNames'.trans hNames.symm, hValues'.trans hValues.symm⟩
  have hLocal : batch.first.time.toLocal .universal = .ok time := by
    rw [hTime]
    decide +kernel
  obtain ⟨hRow, hRow', hShown⟩ := truncations_agree .universal batch
  obtain ⟨hShownBy, hTaken⟩ := hShown time hLocal
  obtain ⟨hShows, hAlike⟩ := hTaken desk m payload rfl rfl hBatch
  rw [hNames] at hShows
  have hWritten : (desk.take .universal m).written? = some (["A"], batch.rowAt time 1) := by
    obtain ⟨written, h⟩ := Option.isSome_iff_exists.mp
      (show (desk.take .universal m).written?.isSome = true by decide +kernel)
    rw [h, (hShows.written written h).1]
    rfl
  have hFirst : Row.ofBatch .universal batch 1 = .ok (["A"], batch.rowAt time 1) := by
    rw [hRow, hLocal, hNames]
    rfl
  exact ⟨batch, other, hBatch, hOther, hSame, rfl, time, hLocal, hFirst,
    (hRow' other hSame 1).trans hFirst, hNames ▸ hShownBy 1, hShows, hWritten,
    hAlike payload' other hOther hSame⟩

/-- A stamp whose instant lies beyond the calendar has no row, although one column has both a name
and a value. -/
theorem no_row_beyond_calendar :
    let payload : Payload := .text (
      "\x7b\"head\":\x7b\"fields\":[\x7b\"name\":\"BattV\"\x7d]\x7d,\"data\":[" ++
      "\x7b\"time\":\"9999-12-31T23:59:59-05:00\",\"vals\":[12.5]\x7d]\x7d")
    ∃ batch, Batch.ofPayload payload = .ok batch ∧ batch.width = 1 ∧
      ¬ ∃ shown, Row.ofBatch .universal batch 1 = .ok shown := by
  intro payload
  let last : Stamp := ⟨⟨⟨9999, 12, 31⟩, 23, 59, 59, 0⟩, some (-18000000000)⟩
  obtain ⟨batch, hBatch, hTime, hNames, -⟩ :=
    @Batch.exists_ofPayload_eq _ payload last ["BattV"] [.finite false 7036874417766400 (-49)]
      (by decide +kernel)
  have hWidth : batch.width = 1 := by
    rw [← batch.length_shownNames, hNames]
    rfl
  have hLocal : last.toLocal .universal = .error .beyondCalendar := by decide +kernel
  refine ⟨batch, hBatch, hWidth, ?_⟩
  rintro ⟨shown, hRow⟩
  rw [Row.ofBatch_eq, hTime, hLocal] at hRow
  cases hRow

end Desk

end TelemetryLog
