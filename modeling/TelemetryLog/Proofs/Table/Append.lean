import TelemetryLog.Proofs.Storage.Deep
import TelemetryLog.Proofs.Storage.File
import TelemetryLog.Table.Log

/-! What appending a row does to the tree and to the writer. Either the row comes at the end of the
file at the path, after the header if the file is new, and is counted; or nothing happens but that
directories are added on the way, and only what the storage refuses is counted as an error. -/

namespace TelemetryLog

open Text

namespace Row

def headerText (names : List String) : String := String.ofList (header names ++ ['\n'])

def lineText (names : List String) (row : Row) : String := String.ofList (row.line names ++ ['\n'])

end Row

/-- What appending a row to the log at a path makes of a tree in which the path leads to `here`. -/
structure RowAppended (path : Path) (names : List String) (row : Row) (before after : Tree)
    (here : Location) : Prop where
  base : after.base = before.base
  located : after.locate path = .ok here
  content : after.content? here = some ((before.content? here).getD "" ++
    LogWriter.textFor (before.content? here).isNone names row)
  others : ∀ there, there ≠ here → after.content? there = before.content? there
  directories : ∀ there, before.HasDirectory there → after.HasDirectory there
  read : ".." ∉ path.parts → before.readFile? path = before.content? here
  isThere : ".." ∉ path.parts → before.isThere path = (before.content? here).isSome

namespace RowAppended

variable {before between after : Tree} {path : Path} {names : List String} {row : Row}
  {here : Location}

theorem not_hasDirectory (h : RowAppended path names row before after here) :
    ¬ after.HasDirectory here := by
  rintro ⟨entries, hEntries⟩
  have hContent := h.content
  rw [Tree.content?_eq, Node.contentAt?, hEntries] at hContent
  cases hContent

theorem locate (h : RowAppended path names row before after here) {other : Path}
    {there : Location} (hThere : before.locate other = .ok there) :
    after.locate other = .ok there :=
  Tree.locate_mono h.base h.directories hThere

theorem readFile? (h : RowAppended path names row before after here) :
    after.readFile? path = after.content? here := Tree.readFile?_of_locate h.located

/-- Directories that were added on the way make no difference to what is appended. -/
theorem of_addedOnWay (hWay : Tree.AddedOnWay path.parent before between)
    (h : RowAppended path names row between after here) :
    RowAppended path names row before after here := by
  have hFurnished := Tree.Furnished.of_addedOnWay hWay
  have hRead : ".." ∉ path.parts → before.readFile? path = before.content? here := by
    intro hPlain
    rw [← Tree.readFile?_of_addedOnWay hPlain hWay, h.read hPlain, hFurnished.files]
  refine ⟨h.base.trans hFurnished.base, h.located, ?_, ?_, ?_, hRead, ?_⟩
  · rw [h.content, hFurnished.files]
  · intro there hThere
    rw [h.others there hThere, hFurnished.files]
  · intro there hThere
    exact h.directories there (hFurnished.directories there hThere)
  · intro hPlain
    rw [Bool.eq_iff_iff, Tree.isThere_eq_true_iff]
    constructor
    · -- What is there leads to the same place later, and is no directory then.
      rintro ⟨there, hThere, hNode⟩
      have hLater := h.locate (hFurnished.locate hThere)
      obtain rfl : here = there := Except.ok.inj (h.located.symm.trans hLater)
      cases hFound : before.node? here with
      | none => simp [hFound] at hNode
      | some found =>
        cases found with
        | file content => simp [Tree.content?, hFound, Node.content?]
        | directory entries =>
          have hOld := hFurnished.directories here ⟨entries, hFound⟩
          exact absurd (h.directories here hOld) h.not_hasDirectory
    · intro hContent
      rw [← hRead hPlain] at hContent
      cases hThere : before.locate path with
      | error cause =>
        rw [Tree.readFile?_of_error hThere] at hContent
        cases hContent
      | ok there =>
        rw [Tree.readFile?_of_locate hThere] at hContent
        exact ⟨there, rfl, Option.isSome_of_isSome_bind hContent⟩

end RowAppended

namespace LogWriter

theorem textFor_eq (isNew : Bool) (names : List String) (row : Row) :
    textFor isNew names row =
      (if isNew then Row.headerText names else "") ++ row.lineText names := by
  cases isNew <;> simp [textFor, Row.headerText, Row.lineText, String.ofList_append,
    String.append_assoc]

/-- The writer after a row that is not appended. -/
def afterFault (writer : LogWriter) : AppendFault → LogWriter
  | .storage _ _ => writer.failed
  | .nulInPath | .tooDeep => writer

variable {tree : Tree} {path : Path} {names : List String} {row : Row}

theorem rowAppended_of_appendText {after : Tree} {node : Option Node}
    (hFind : tree.find path = .ok node)
    (h : tree.appendText path (textFor node.isNone names row) = .ok after) :
    ∃ here, RowAppended path names row tree after here := by
  obtain ⟨here, hLocate, hOld, hSome, hAfter⟩ := Tree.appendText_eq_ok h
  have hNode : node = tree.node? here := by
    rw [Tree.find, hLocate] at hFind
    exact (Except.ok.inj hFind).symm
  have hNew : node.isNone = (tree.content? here).isNone := by
    rw [hNode, ← Option.not_isSome, hSome, Option.not_isSome]
  have hDirectories : ∀ there, tree.HasDirectory there → after.HasDirectory there := by
    intro there hThere
    rw [hAfter]
    exact hThere.set_file hLocate hOld
  have hBase : after.base = tree.base := by rw [hAfter]; rfl
  refine ⟨here, hBase, Tree.locate_mono hBase hDirectories hLocate, ?_, ?_, hDirectories,
    fun _ => Tree.readFile?_of_locate hLocate, fun _ => ?_⟩
  · rw [hAfter, Tree.content?_set_file hLocate hOld, if_pos rfl, hNew]
  · intro there hThere
    rw [hAfter, Tree.content?_set_file hLocate hOld, if_neg hThere]
  · rw [← hSome, Tree.isThere_of_locate hLocate]

/-- Appending to a new file or to one that is there, once the directory has been made. -/
theorem appendTo_cases (writer : LogWriter) (tree : Tree) (isNew : Bool) (path : Path)
    (names : List String) (row : Row) :
    let done := writer.appendTo tree isNew path names row
    (done.result = .ok () ∧ done.writer = writer.wrote ∧ path.hasNul = false ∧
      tree.appendText path (textFor isNew names row) = .ok done.tree) ∨
    ∃ fault, done.result = .error fault ∧ done.writer = writer.afterFault fault ∧
      done.tree = tree := by
  rw [appendTo]
  split
  · exact .inr ⟨_, rfl, rfl, rfl⟩
  · split
    · exact .inr ⟨_, rfl, rfl, rfl⟩
    · exact .inl ⟨rfl, rfl, by simpa using ‹¬ path.hasNul = true›, ‹_›⟩

/-- A row is appended, or no more is done than to add directories on the way. -/
theorem append_cases [Host] (writer : LogWriter) (tree : Tree) (path : Path) (names : List String)
    (row : Row) :
    let done := writer.append tree path names row
    (done.result = .ok () ∧ done.writer = writer.wrote ∧
      ∃ here, RowAppended path names row tree done.tree here) ∨
    ∃ fault, done.result = .error fault ∧ done.writer = writer.afterFault fault ∧
      Tree.AddedOnWay path.parent tree done.tree := by
  rw [append]
  split
  · exact .inr ⟨_, rfl, rfl, .refl⟩
  · have hWay := tree.addedOnWay_ensureDirectory path.parent
    split
    · rename_i middle fault hEnsure
      rw [hEnsure] at hWay
      exact .inr ⟨_, rfl, rfl, hWay⟩
    · rename_i middle hEnsure
      rw [hEnsure] at hWay
      exact .inr ⟨_, rfl, rfl, hWay⟩
    · rename_i middle hEnsure
      rw [hEnsure] at hWay
      split
      · rcases writer.appendTo_cases middle true path names row with
          ⟨-, -, hNul, -⟩ | ⟨fault, hResult, hWriter, hTree⟩
        · exact absurd ‹path.hasNul = true› (by simp [hNul])
        · exact .inr ⟨fault, hResult, hWriter, by rw [hTree]; exact hWay⟩
      · split
        · exact .inr ⟨_, rfl, rfl, hWay⟩
        · rename_i node hFind
          rcases writer.appendTo_cases middle node.isNone path names row with
            ⟨hResult, hWriter, -, hText⟩ | ⟨fault, hResult, hWriter, hTree⟩
          · obtain ⟨here, hRow⟩ := rowAppended_of_appendText hFind hText
            exact .inl ⟨hResult, hWriter, here, hRow.of_addedOnWay hWay⟩
          · exact .inr ⟨fault, hResult, hWriter, by rw [hTree]; exact hWay⟩

theorem appendTo_faults (writer : LogWriter) (isNew : Bool) (h : path.hasNul = false) :
    let result := (writer.appendTo tree isNew path names row).result
    result ≠ .error .nulInPath ∧ result ≠ .error .tooDeep := by
  simp only [appendTo, h, Bool.false_eq_true, if_false]
  split <;> simp

/-- Where every part of a path can be a name, only the storage refuses, unless the directory of the
path lies too deep. -/
theorem append_faults [Host] (writer : LogWriter) (h : path.hasNul = false) :
    let result := (writer.append tree path names row).result
    result ≠ .error .nulInPath ∧ (result = .error .tooDeep ↔ tree.MissesDeep path.parent) := by
  simp only [append, Path.hasNul_parent h, h, Bool.false_eq_true, if_false,
    ← Tree.ensureDirectory_eq_tooDeep]
  split
  · simp [*]
  · simp [*]
  · split
    · simp [*]
    · have hFaults := @appendTo_faults
      simp [*]

end LogWriter

end TelemetryLog
