import TelemetryLog.Dispatch
import TelemetryLog.Proofs.Storage.Outline

/-! Dispatching with a record number less. A dispatcher whose counter is one behind does the same,
with a tree of the same outline: the outcomes are the same but for the record numbers of their rows,
and so are the trees but for what is in the log. -/

namespace TelemetryLog

namespace Row

/-- The row with the record number before its own. -/
def lower (row : Row) : Row := { row with recordNumber := row.recordNumber - 1 }

theorem ofBatch_lower (zone : Zone) (batch : Batch) (number : Int) :
    ofBatch zone batch (number - 1) =
      (ofBatch zone batch number).map fun (names, row) => (names, row.lower) := by
  rw [ofBatch, ofBatch]
  cases batch.first.time.toLocal zone <;> rfl

end Row

def Outcome.lower : Outcome → Outcome
  | .dataHandled identity names row tablePath writeError =>
    .dataHandled identity names row.lower tablePath writeError
  | outcome => outcome

/-- What comes of appending a row, but for what the files hold. -/
def Appended.outlined (done : Appended) : Tree × LogWriter × Except AppendFault Unit :=
  (done.tree.outline, done.writer, done.result)

theorem eq_or_of_map_eq {ε α β : Type} {f : α → β} {r r' : Except ε α} (h : r.map f = r'.map f) :
    (∃ e, r = .error e ∧ r' = .error e) ∨ ∃ a a', r = .ok a ∧ r' = .ok a' ∧ f a = f a' := by
  cases r <;> cases r' <;> simp_all [Except.map]

namespace LogWriter

variable {tree tree' : Tree}

theorem appendTo_outlined (writer : LogWriter) (h : tree.outline = tree'.outline) (isNew : Bool)
    (path : Path) (names : List String) (row row' : Row) :
    (writer.appendTo tree isNew path names row).outlined =
      (writer.appendTo tree' isNew path names row').outlined := by
  have hText := tree.appendText_outline path (textFor isNew names row)
  rw [h, ← tree'.appendText_outline path (textFor isNew names row')] at hText
  rw [appendTo, appendTo]
  split
  · simp [Appended.outlined, h]
  · obtain ⟨cause, hOne, hOther⟩ | ⟨after, after', hOne, hOther, hAfter⟩ := eq_or_of_map_eq hText
    · simp [hOne, hOther, Appended.outlined, h]
    · simp [hOne, hOther, Appended.outlined, hAfter]

/-- What comes of appending a row hangs on the outline of the tree and not on the row. -/
theorem append_outlined [Host] (writer : LogWriter) (h : tree.outline = tree'.outline) (path : Path)
    (names : List String) (row row' : Row) :
    (writer.append tree path names row).outlined =
      (writer.append tree' path names row').outlined := by
  have hEnsure := tree.ensureDirectory_outline path.parent
  rw [h, tree'.ensureDirectory_outline] at hEnsure
  rw [append, append]
  split
  · simp [Appended.outlined, h]
  · rcases hOne : tree.ensureDirectory path.parent with ⟨middle, result⟩
    rcases hOther : tree'.ensureDirectory path.parent with ⟨middle', result'⟩
    obtain ⟨hMiddle, rfl⟩ : middle'.outline = middle.outline ∧ result' = result := by
      simpa [hOne, hOther] using hEnsure
    cases result' with
    | error fault => cases fault <;> simp [Appended.outlined, hMiddle]
    | ok =>
      -- The directory has been made in both trees, and the outlines are the same again.
      have hTo := fun isNew => appendTo_outlined writer hMiddle.symm isNew path names row row'
      have hFind := middle.find_outline path
      rw [← hMiddle, middle'.find_outline] at hFind
      dsimp only
      split
      · exact hTo true
      · obtain ⟨cause, hOne, hOther⟩ | ⟨node', node, hOther, hOne, hNode⟩ := eq_or_of_map_eq hFind
        · simp [hOne, hOther, Appended.outlined, hMiddle]
        · have hNew : node.isNone = node'.isNone := by
            cases node <;> cases node' <;> simp_all
          simp only [hOne, hOther, hNew]
          exact hTo _

end LogWriter

/-- The dispatcher with a counter that is one behind. -/
def Dispatcher.behind (d : Dispatcher) : Dispatcher :=
  { d with counter := ⟨d.counter.value - 1⟩ }

namespace Dispatched

/-- What comes of a dispatch, but for the journal and for what the files hold. -/
def outlined (done : Dispatched) : Tree × Dispatcher × Except DispatchFault Outcome :=
  (done.tree.outline, done.dispatcher, done.result)

/-- The same, as it is with a counter that is one behind. -/
def lowered (done : Dispatched) : Tree × Dispatcher × Except DispatchFault Outcome :=
  (done.tree.outline, done.dispatcher.behind, done.result.map Outcome.lower)

end Dispatched

namespace Dispatcher

open Dispatched (outlined lowered)

variable {d : Dispatcher} {tree tree' : Tree} {identity : Identity}

theorem behind_count (d : Dispatcher) : d.count.behind = d := by
  simp [behind, count, RecordCounter.increment]

theorem count_behind (d : Dispatcher) : d.behind.count = d.count.behind := by
  simp [behind, count, RecordCounter.increment]

theorem writeRow_behind [Host] (h : tree'.outline = tree.outline) (names : List String)
    (row : Row) :
    (d.behind.writeRow tree' identity names row.lower).outlined =
      (d.writeRow tree identity names row).lowered := by
  have hAppend := d.writer.append_outlined h d.tablePath names row.lower row
  rw [Appended.outlined, Appended.outlined, Prod.mk.injEq, Prod.mk.injEq] at hAppend
  obtain ⟨hTree, hWriter, hResult⟩ := hAppend
  simp only [writeRow, behind, hWriter, hResult]
  split <;> simp [outlined, lowered, behind, hTree, Except.map, Outcome.lower]

theorem readData_behind [Host] (zone : Zone) (h : tree'.outline = tree.outline)
    (payload : Payload) :
    (d.behind.readData zone tree' identity payload).outlined =
      (d.readData zone tree identity payload).lowered := by
  rw [readData, readData]
  split
  · simp [outlined, lowered, h, Except.map]
  · simp [outlined, lowered, h, Except.map, refusal, Outcome.lower]
  · rename_i batch _
    have hRow : Row.ofBatch zone batch d.behind.counter.value = _ :=
      Row.ofBatch_lower zone batch d.counter.value
    rw [hRow]
    cases Row.ofBatch zone batch d.counter.value with
    | error fault =>
      simp [outlined, lowered, h, Except.map, refusal, Outcome.lower]
    | ok written => exact writeRow_behind h _ _

theorem readMetadata_lower [Host] (payload : Payload) :
    (readMetadata identity payload).map Outcome.lower = readMetadata identity payload := by
  rw [readMetadata]
  split <;> rfl

/-- A dispatcher whose counter is one behind does the same with a record number less. -/
theorem dispatch_behind [Host] (zone : Zone) (d : Dispatcher) (h : tree'.outline = tree.outline)
    (identity : Identity) (topic : Value) (payload : Option Payload) :
    (d.behind.dispatch zone tree' identity topic payload).outlined =
      (d.dispatch zone tree identity topic payload).lowered := by
  simp only [dispatch]
  split
  · simp [outlined, lowered, h, Except.map]
  · simp [outlined, lowered, h, Except.map, count_behind]
  · rw [count_behind]
    exact readData_behind zone h _
  · simp [outlined, lowered, h, Except.map]
  · simp [outlined, lowered, h, readMetadata_lower]
  · simp [outlined, lowered, h, Except.map, Outcome.lower]

end Dispatcher

end TelemetryLog
