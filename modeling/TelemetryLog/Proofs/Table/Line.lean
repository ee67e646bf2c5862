import TelemetryLog.Proofs.Table.Cells
import TelemetryLog.Proofs.Time.Text

/-! A line of the log can be read back: its cells are the number of the row, the time and the values
that have a name, so two lines are equal only when these are. The times of a log, read from its
lines, are in order as texts when they are in order by the wall clock. -/

namespace TelemetryLog

open Text

theorem Text.integerText_eq_toString (i : Int) : integerText i = (toString i).toList := by
  cases i with
  | ofNat n => simp [integerText, digitsOf, toString, Int.repr, Nat.repr_eq_ofList_toDigits]
  | negSucc n => simp [integerText, digitsOf, toString, Int.repr, Nat.repr_eq_ofList_toDigits]

namespace Row

variable {names names' : List String} {row row' : Row}

theorem any_isLineBreak_line (names : List String) (row : Row) :
    (row.line names).any isLineBreak = false := by
  refine List.any_eq_false.mpr fun c hMember => Bool.eq_false_iff.mp ?_
  by_cases hComma : c = ','
  · rw [hComma]
    decide
  · rw [line_eq, joinCells, mem_joinWith hComma] at hMember
    obtain ⟨cell, hCell, hLetter⟩ := hMember
    exact not_isLineBreak_of_isCellLetter (isPlain_of_mem_cells hCell c hLetter)

theorem cells_eq_iff : row.cells = row'.cells ↔ row.recordNumber = row'.recordNumber ∧
    row.time.wall.fields = row'.time.wall.fields ∧
      row.values.map Binary64.chars = row'.values.map Binary64.chars := by
  simp only [cells, List.cons.injEq, WallTime.logChars_eq_iff]
  exact and_congr_left' ⟨integerText_injective, congrArg integerText⟩

theorem line_eq_line_iff :
    row.line names = row'.line names' ↔ (row.cut names).cells = (row'.cut names').cells := by
  constructor
  · intro h
    rw [← (splitAt_line names row).2, h, (splitAt_line names' row').2]
  · intro h
    rw [line_eq, h, ← line_eq]

/-- A line has no break in it and falls at its commas into the number of the row, its time and the
texts of the values that have a name. Two lines are equal exactly when the numbers are, the times
to the second, and the texts of the values. -/
theorem line_reads_back (names names' : List String) (row row' : Row) :
    (row.line names).any isLineBreak = false ∧
      splitAt ',' (row.line names) =
        (toString row.recordNumber).toList :: row.time.wall.logChars ::
          (row.values.take (min names.length row.values.length)).map Binary64.chars ∧
      (splitAt ',' (row.line names)).length = 2 + min names.length row.values.length ∧
      (row.line names = row'.line names' ↔
        row.recordNumber = row'.recordNumber ∧
          row.time.wall.fields = row'.time.wall.fields ∧
          (row.values.take (min names.length row.values.length)).map Binary64.chars =
            (row'.values.take (min names'.length row'.values.length)).map Binary64.chars) := by
  have hCells := (splitAt_line names row).2
  refine ⟨any_isLineBreak_line names row, ?_, ?_, ?_⟩
  · rw [hCells, cells, integerText_eq_toString]
    rfl
  · simp only [hCells, cells, cut, List.length_cons, List.length_map, List.length_take]
    omega
  · rw [line_eq_line_iff, cells_eq_iff]
    rfl

/-- The text of the time in a line: its second cell. -/
def timeCell? (line : List Char) : Option (List Char) := (splitAt ',' line)[1]?

theorem timeCell?_line (names : List String) (row : Row) :
    timeCell? (row.line names) = some row.time.wall.logChars := by
  rw [timeCell?, (splitAt_line names row).2]
  rfl

/-- The texts of two times of the calendar have one length and are in the order of the times, to
the second; so the times of the lines of a log are sorted as texts when the lines are sorted by
their times. -/
theorem times_sort_as_text {a b : WallTime} (ha : a.IsValid) (hb : b.IsValid)
    {log : List (List String × Row)} (hLog : ∀ entry ∈ log, entry.2.time.wall.IsValid) :
    a.logChars.length = 19 ∧ b.logChars.length = 19 ∧
      compare a.logChars b.logChars = compare a.fields b.fields ∧
      (a.logChars = b.logChars ↔ a.fields = b.fields) ∧
      (log.filterMap fun entry => timeCell? (entry.2.line entry.1)).mergeSort
          (fun s t => (compare s t).isLE) =
        (log.mergeSort fun entry other =>
          (compare entry.2.time.wall.fields other.2.time.wall.fields).isLE).map
            fun entry => entry.2.time.wall.logChars := by
  refine ⟨WallTime.length_logChars ha, WallTime.length_logChars hb,
    WallTime.compare_logChars ha hb, WallTime.logChars_eq_iff, ?_⟩
  have hColumn : (log.filterMap fun entry => timeCell? (entry.2.line entry.1)) =
      log.map fun entry => entry.2.time.wall.logChars := by
    simp only [timeCell?_line]
    exact congrFun List.filterMap_eq_map log
  rw [hColumn]
  refine (List.map_mergeSort ?_).symm
  intro entry hEntry other hOther
  rw [WallTime.compare_logChars (hLog entry hEntry) (hLog other hOther)]

/-- The year 999 is before the year 1000 in the log too. -/
theorem times_sort_as_text_millennium :
    let last : WallTime := ⟨⟨999, 12, 31⟩, 23, 59, 59, 0⟩
    let first : WallTime := ⟨⟨1000, 1, 1⟩, 0, 0, 0, 0⟩
    let log : List (List String × Row) :=
      [(["A"], ⟨1, ⟨first, some 0⟩, [.nan]⟩), ([], ⟨2, ⟨last, some 0⟩, [.nan]⟩)]
    last.IsValid ∧ first.IsValid ∧ (∀ entry ∈ log, entry.2.time.wall.IsValid) ∧
      last.logChars.length = 19 ∧ first.logChars.length = 19 ∧
      compare last.logChars first.logChars = .lt ∧ last.logChars ≠ first.logChars ∧
      (log.filterMap fun entry => timeCell? (entry.2.line entry.1)).mergeSort
        (fun s t => (compare s t).isLE) = [last.logChars, first.logChars] := by
  intro last first log
  have hLast : last.IsValid := by decide
  have hFirst : first.IsValid := by decide
  have hLog : ∀ entry ∈ log, entry.2.time.wall.IsValid := by decide
  have hLater : (compare first.fields last.fields).isLE = false := by decide
  obtain ⟨hLength, hLength', hCompare, hEqual, hSorted⟩ := times_sort_as_text hLast hFirst hLog
  exact ⟨hLast, hFirst, hLog, hLength, hLength', hCompare.trans (by decide),
    mt hEqual.mp (by decide), hSorted.trans (by simp [log, List.mergeSort, hLater])⟩

end Row

end TelemetryLog
