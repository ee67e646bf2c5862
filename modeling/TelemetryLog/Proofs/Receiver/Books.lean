import Mathlib.Data.List.Nodup
import Mathlib.Logic.Function.Basic
import TelemetryLog.Proofs.Intake.Numbering
import TelemetryLog.Proofs.Receiver.Pipelines

/-! Books of what each pipeline of a process has taken and of the rows that it has put into the log.
They are kept without a look at the counters of the pipelines. `Sound` says that they agree with
these, and with them that a row has the number of its place in its pipeline. -/

namespace TelemetryLog

/-- A row that has been put into the log: the pipeline that wrote it, how many data messages that
had taken by then, and the record number. -/
structure LoggedRow where
  pipeline : Nat
  place : Nat
  number : Int
  deriving DecidableEq, Repr

/-- The books of a process: how many pipelines have been built, how many data messages each has
taken, and the rows that have been put into the log, in order. -/
structure Books where
  built : Nat
  taken : Nat → Nat
  rows : List LoggedRow

namespace Books

def empty : Books := ⟨0, fun _ => 0, []⟩

def build (books : Books) : Books := { books with built := books.built + 1 }

/-- The place that a pipeline has come to after a message. -/
def nextPlace (books : Books) (m : Message) (k : Nat) : Nat :=
  books.taken k + if m.isData then 1 else 0

/-- The row that a message has put into the log by a pipeline, if it has put one there. -/
def loggedRow? (books : Books) (m : Message) (outcome : Option Outcome) (k : Nat) :
    Option LoggedRow :=
  (outcome.bind Outcome.written?).map fun (_, row) => ⟨k, books.nextPlace m k, row.recordNumber⟩

/-- The books after a message, which one of the pipelines may have taken. -/
def note (books : Books) (m : Message) (outcome : Option Outcome) : Option Nat → Books
  | none => books
  | some k =>
    { books with
      taken := Function.update books.taken k (books.nextPlace m k)
      rows := books.rows ++ (books.loggedRow? m outcome k).toList }

/-- The books agree with the pipelines that are still there, given with their numbers. -/
structure Sound (books : Books) (live : List (Nat × Intake)) : Prop where
  distinct : (live.map Prod.fst).Nodup
  counted : ∀ k intake, (k, intake) ∈ live →
    k < books.built ∧ intake.dispatcher.counter.value = books.taken k
  unbuilt : ∀ k, books.built ≤ k → books.taken k = 0
  numbered : ∀ row ∈ books.rows, row.number = row.place ∧ row.place ≤ books.taken row.pipeline
  ordered : books.rows.Pairwise fun earlier later =>
    earlier.pipeline = later.pipeline → earlier.place < later.place

namespace Sound

variable {books : Books} {live live' : List (Nat × Intake)}

theorem empty : Sound .empty [] :=
  ⟨List.nodup_nil, by simp, fun _ _ => rfl, by simp [Books.empty], .nil⟩

theorem sublist (h : books.Sound live) (hLive : live'.Sublist live) : books.Sound live' := by
  refine ⟨h.distinct.sublist (hLive.map _), ?_, h.unbuilt, h.numbered, h.ordered⟩
  intro k intake hMember
  exact h.counted k intake (hLive.subset hMember)

/-- A fresh pipeline gets the next number. -/
theorem build (h : books.Sound live) {intake : Intake}
    (hFresh : intake.dispatcher.counter.value = 0) :
    books.build.Sound ((books.built, intake) :: live) := by
  refine ⟨?_, ?_, fun k hBuilt => h.unbuilt k (Nat.le_of_succ_le hBuilt), h.numbered, h.ordered⟩
  · refine List.nodup_cons.mpr ⟨?_, h.distinct⟩
    intro hMember
    obtain ⟨⟨k, other⟩, hLive, hEq⟩ := List.mem_map.mp hMember
    have hLess := (h.counted k other hLive).1
    simp only at hEq
    omega
  · intro k other hMember
    obtain hNew | hOld := List.mem_cons.mp hMember
    · cases hNew
      rw [hFresh]
      exact ⟨Nat.lt_succ_self _, by simp [Books.build, h.unbuilt]⟩
    · obtain ⟨hLess, hCount⟩ := h.counted k other hOld
      exact ⟨Nat.lt_succ_of_lt hLess, hCount⟩

theorem taken_note_self (books : Books) (m : Message) (outcome : Option Outcome) (k : Nat) :
    (books.note m outcome (some k)).taken k = books.nextPlace m k := Function.update_self _ _ _

theorem taken_note_of_ne {j k : Nat} (hNe : j ≠ k) (books : Books) (m : Message)
    (outcome : Option Outcome) : (books.note m outcome (some k)).taken j = books.taken j :=
  Function.update_of_ne hNe _ _

theorem le_taken_note (books : Books) (m : Message) (outcome : Option Outcome) (k j : Nat) :
    books.taken j ≤ (books.note m outcome (some k)).taken j := by
  by_cases hEq : j = k
  · subst hEq
    have hSelf := taken_note_self books m outcome j
    rw [nextPlace] at hSelf
    omega
  · have hOther := taken_note_of_ne hEq books m outcome
    omega

section Note

variable {zone : Zone} {tree : Tree} {m : Message} {intake : Intake} {k : Nat}

theorem ne_of_beside {before after : List (Nat × Intake)}
    (hDistinct : ((before ++ (k, intake) :: after).map Prod.fst).Nodup) {j : Nat} {other : Intake}
    (hMember : (j, other) ∈ before ∨ (j, other) ∈ after) : j ≠ k := by
  rw [List.map_append, List.map_cons, List.nodup_middle, List.nodup_cons] at hDistinct
  rintro rfl
  refine hDistinct.1 (List.mem_append.mpr ?_)
  rcases hMember with hBefore | hAfter
  · exact .inl (List.mem_map.mpr ⟨_, hBefore, rfl⟩)
  · exact .inr (List.mem_map.mpr ⟨_, hAfter, rfl⟩)

variable [Host]

theorem counter_take (hCount : intake.dispatcher.counter.value = books.taken k) :
    (Desk.take zone ⟨intake, tree⟩ m).intake.dispatcher.counter.value = books.nextPlace m k := by
  have hNext := Desk.number_after_message zone ⟨intake, tree⟩ m
  have hStart : Desk.number ⟨intake, tree⟩ = books.taken k := hCount
  rw [hStart] at hNext
  refine hNext.trans ?_
  rw [nextPlace]
  split <;> simp

/-- A row that a message puts into the log has the number of its place, which is beyond all places
that its pipeline had before. -/
theorem loggedRow?_spec (hCount : intake.dispatcher.counter.value = books.taken k) {row : LoggedRow}
    (hRow : books.loggedRow? m (Desk.take zone ⟨intake, tree⟩ m).outcome k = some row) :
    row.pipeline = k ∧ row.number = row.place ∧ row.place = books.nextPlace m k ∧
      books.taken k < row.place := by
  obtain ⟨⟨names, written⟩, hWritten, rfl⟩ := Option.map_eq_some_iff.mp hRow
  obtain ⟨hData, hNumber⟩ := Desk.row?_take (Handled.row?_of_written? hWritten)
  have hPlace : books.nextPlace m k = books.taken k + 1 := by rw [nextPlace, hData, if_pos rfl]
  have hStart : Desk.number ⟨intake, tree⟩ = books.taken k := hCount
  refine ⟨rfl, ?_, rfl, ?_⟩
  · simp only [hNumber, hStart, hPlace]
    omega
  · simp only [hPlace]
    omega

theorem counted_note {before after : List (Nat × Intake)} {outcome : Option Outcome}
    (h : books.Sound (before ++ (k, intake) :: after)) {j : Nat} {other : Intake}
    (hMember : (j, other) ∈
      before ++ (k, (Desk.take zone ⟨intake, tree⟩ m).intake) :: after) :
    j < books.built ∧
      other.dispatcher.counter.value = (books.note m outcome (some k)).taken j := by
  obtain ⟨hBuilt, hCount⟩ := h.counted k intake (by simp)
  have hCases : (j, other) = (k, (Desk.take zone ⟨intake, tree⟩ m).intake) ∨
      (j, other) ∈ before ∨ (j, other) ∈ after := by
    simpa [or_left_comm] using hMember
  rcases hCases with hHere | hBeside
  · cases hHere
    rw [taken_note_self]
    exact ⟨hBuilt, counter_take hCount⟩
  · rw [taken_note_of_ne (ne_of_beside h.distinct hBeside)]
    exact h.counted j other (by simp [or_left_comm, hBeside])

theorem numbered_note (h : books.Sound live)
    (hCount : intake.dispatcher.counter.value = books.taken k) {row : LoggedRow}
    (hRow : row ∈ (books.note m (Desk.take zone ⟨intake, tree⟩ m).outcome (some k)).rows) :
    row.number = row.place ∧
      row.place ≤
        (books.note m (Desk.take zone ⟨intake, tree⟩ m).outcome (some k)).taken row.pipeline := by
  rcases List.mem_append.mp hRow with hOld | hNew
  · obtain ⟨hNumber, hPlace⟩ := h.numbered row hOld
    exact ⟨hNumber, Nat.le_trans hPlace (le_taken_note _ _ _ _ _)⟩
  · obtain ⟨rfl, hNumber, hPlace, -⟩ := loggedRow?_spec hCount (Option.mem_toList.mp hNew)
    rw [taken_note_self]
    exact ⟨hNumber, Nat.le_of_eq hPlace⟩

theorem ordered_note (h : books.Sound live)
    (hCount : intake.dispatcher.counter.value = books.taken k) :
    (books.note m (Desk.take zone ⟨intake, tree⟩ m).outcome (some k)).rows.Pairwise
      fun earlier later => earlier.pipeline = later.pipeline → earlier.place < later.place := by
  refine List.pairwise_append.mpr ⟨h.ordered, ?_, ?_⟩
  · cases books.loggedRow? m (Desk.take zone ⟨intake, tree⟩ m).outcome k <;> simp
  · intro earlier hEarlier later hLater hSame
    obtain ⟨rfl, -, -, hBeyond⟩ := loggedRow?_spec hCount (Option.mem_toList.mp hLater)
    rw [← hSame] at hBeyond
    have hPlace := (h.numbered earlier hEarlier).2
    omega

/-- A message that a pipeline takes counts for that pipeline, and its row stands at the place that
the pipeline has come to. -/
theorem note (h : books.Sound live) {outcome : Option Outcome} {taker : Option Nat}
    (hTakes : Receiver.Takes zone tree m live live' outcome taker) :
    (books.note m outcome taker).Sound live' := by
  cases taker with
  | none =>
    obtain ⟨rfl, -⟩ := hTakes
    exact h
  | some k =>
    obtain ⟨before, intake, after, rfl, rfl, rfl⟩ := hTakes
    obtain ⟨hBuilt, hCount⟩ := h.counted k intake (by simp)
    refine ⟨?_, fun j other hMember => h.counted_note hMember, ?_,
      fun row hRow => h.numbered_note hCount hRow, h.ordered_note hCount⟩
    · simpa using h.distinct
    · intro j hUnbuilt
      have hNe : j ≠ k := Nat.ne_of_gt (Nat.lt_of_lt_of_le hBuilt hUnbuilt)
      rw [taken_note_of_ne hNe]
      exact h.unbuilt j hUnbuilt

end Note

end Sound

end Books

end TelemetryLog
