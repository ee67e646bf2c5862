import TelemetryLog.Proofs.Table.Append
import TelemetryLog.Proofs.Table.Letters
import TelemetryLog.Proofs.Text.Split

/-! The cells of a new log. A log that begins with a row has two lines, each of them cells joined by
commas. The cells of the row never break the table, for they are numbers and a time; the header has
the names of the columns as they come, so it can be read back exactly when no name has a comma or a
line break. -/

namespace TelemetryLog

namespace Text

/-- A text that can stand in a cell: it has neither a comma nor a line break. -/
def IsCell (s : List Char) : Prop := ',' ∉ s ∧ '\n' ∉ s

instance (s : List Char) : Decidable (IsCell s) := by unfold IsCell; infer_instance

@[simp] theorem isCell_nil : IsCell [] := by simp [IsCell]

@[simp] theorem isCell_cons {c : Char} {s : List Char} :
    IsCell (c :: s) ↔ (c ≠ ',' ∧ c ≠ '\n') ∧ IsCell s := by
  simp only [IsCell, List.mem_cons, not_or, Ne, eq_comm]
  tauto

theorem IsPlain.isCell {s : List Char} (h : IsPlain s) : IsCell s :=
  ⟨fun hMember => absurd (h _ hMember) (by decide), fun hMember => absurd (h _ hMember) (by decide)⟩

end Text

open Text

namespace Row

def headerCells (names : List String) : List (List Char) :=
  "record_no".toList :: "timestamp".toList :: names.map String.toList

def cells (row : Row) : List (List Char) :=
  integerText row.recordNumber :: row.time.wall.logChars :: row.values.map Binary64.chars

/-- The content of a file is a table of one row: two lines that end in line feeds, a header with the
names of the columns, and a line of as many cells for the row. -/
def FormsTable (names : List String) (row : Row) (content : List Char) : Prop :=
  ∃ header line, splitAt '\n' content = [header, line, []] ∧
    splitAt ',' header = headerCells names ∧ (splitAt ',' header).length = names.length + 2 ∧
    splitAt ',' line = row.cells ∧ (splitAt ',' line).length = names.length + 2

variable {names : List String} {row : Row}

theorem isPlain_of_mem_cells {cell : List Char} (h : cell ∈ row.cells) : IsPlain cell := by
  simp only [cells, List.mem_cons, List.mem_map] at h
  rcases h with rfl | rfl | ⟨value, -, rfl⟩
  · exact isPlain_integerText _
  · exact WallTime.isPlain_logChars _
  · exact value.isPlain_chars

/-- A row with only those of its values that have a name. -/
def cut (names : List String) (row : Row) : Row :=
  { row with values := row.values.take (min names.length row.values.length) }

theorem cut_eq_self (h : row.values.length = names.length) : row.cut names = row := by
  rw [cut, h, Nat.min_self, ← h, List.take_length]

theorem named_cut (names : List String) (row : Row) :
    (row.cut names).named names = row.named names := by
  have hWidth : min names.length (row.cut names).values.length =
      min names.length row.values.length := by
    simp only [cut, List.length_take]
    omega
  rw [named, List.zip_eq_zip_take_min, hWidth, cut, List.take_take, Nat.min_self,
    ← List.zip_eq_zip_take_min, named]

theorem map_snd_named (names : List String) (row : Row) :
    (row.named names).map Prod.snd = (row.cut names).values := by
  rw [← named_cut, named]
  refine List.map_snd_zip ?_
  simp only [cut, List.length_take]
  omega

theorem line_eq (names : List String) (row : Row) :
    row.line names = joinCells (row.cut names).cells := by
  rw [line, cells, ← map_snd_named, List.map_map]
  rfl

/-- Texts that can stand in cells make one line, which falls into them again; and no other texts
do. -/
theorem splitAt_joinCells {cells : List (List Char)} (hSome : cells ≠ []) :
    ('\n' ∉ joinCells cells ∧ splitAt ',' (joinCells cells) = cells) ↔
      ∀ cell ∈ cells, IsCell cell := by
  have hBreak : '\n' ∈ joinCells cells ↔ ∃ cell ∈ cells, '\n' ∈ cell := mem_joinWith (by decide)
  rw [hBreak]
  constructor
  · rintro ⟨hNone, hSplit⟩ cell hCell
    exact ⟨not_mem_of_mem_splitAt (hSplit ▸ hCell), fun hMember => hNone ⟨cell, hCell, hMember⟩⟩
  · intro hCells
    constructor
    · rintro ⟨cell, hCell, hMember⟩
      exact (hCells cell hCell).2 hMember
    · exact splitAt_joinWith hSome fun cell hCell => (hCells cell hCell).1

theorem splitAt_line (names : List String) (row : Row) :
    '\n' ∉ row.line names ∧ splitAt ',' (row.line names) = (row.cut names).cells := by
  rw [line_eq, splitAt_joinCells (by simp [cells])]
  exact fun _ hCell => (isPlain_of_mem_cells hCell).isCell

theorem splitAt_header :
    ('\n' ∉ header names ∧ splitAt ',' (header names) = headerCells names) ↔
      ∀ name ∈ names, IsCell name.toList := by
  have hHeader : header names = joinCells (headerCells names) := rfl
  rw [hHeader, splitAt_joinCells (by simp [headerCells])]
  simp [headerCells]

theorem formsTable_iff (h : row.values.length = names.length) :
    FormsTable names row (header names ++ '\n' :: row.line names ++ ['\n']) ↔
      ∀ name ∈ names, IsCell name.toList := by
  have hContent : header names ++ '\n' :: row.line names ++ ['\n'] =
      joinWith ['\n'] [header names, row.line names, []] := by
    simp [joinWith]
  obtain ⟨hBreak, hLine⟩ := splitAt_line names row
  rw [cut_eq_self h] at hLine
  rw [hContent, ← splitAt_header]
  constructor
  · rintro ⟨first, second, hLines, hFirst, -, -, -⟩
    -- The cells of the header give back the header itself.
    have hHeader : first = header names := by
      rw [← joinWith_splitAt ',' first, hFirst]
      rfl
    subst hHeader
    exact ⟨not_mem_of_mem_splitAt (hLines ▸ List.mem_cons_self), hFirst⟩
  · rintro ⟨hHeaderBreak, hHeader⟩
    refine ⟨header names, row.line names, splitAt_joinWith (by simp) ?_, hHeader, ?_, hLine, ?_⟩
    · simp [hHeaderBreak, hBreak]
    · simp [hHeader, headerCells]
    · simp [hLine, cells, h]

end Row

end TelemetryLog
