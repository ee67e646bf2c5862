import TelemetryLog.Proofs.Intake.LogFile

/-! The record numbers of a desk. Each data message takes the next number, whatever becomes of it,
and no other message takes one; so the numbers in the log go up, and one is left out exactly where a
data message has not been written. -/

namespace TelemetryLog

/-- The row of a message, whether or not it is in the log. -/
def Handled.row? (done : Handled) : Option Row := done.outcome.bind Outcome.row?

theorem Outcome.row?_of_written? {outcome : Outcome} {names : List String} {row : Row}
    (h : outcome.written? = some (names, row)) : outcome.row? = some row := by
  unfold written? at h
  split at h
  · cases h
    rfl
  · cases h

theorem Handled.row?_of_written? {done : Handled} {names : List String} {row : Row}
    (h : done.written? = some (names, row)) : done.row? = some row := by
  obtain ⟨outcome, hOutcome, hWritten⟩ := Option.bind_eq_some_iff.mp h
  exact Option.bind_eq_some_iff.mpr ⟨outcome, hOutcome, Outcome.row?_of_written? hWritten⟩

namespace Desk

/-- The number of the last data message. -/
def number (desk : Desk) : Int := desk.intake.dispatcher.counter.value

section

variable [Host]

/-- The data messages of a run, in order, each with the desk that it comes to. -/
def dataArrivals (zone : Zone) (desk : Desk) (events : List Event) : List (Desk × Message) :=
  (desk.arrivals zone events).filter (·.2.isData)

/-- The numbers of the rows of a run that are said to be written, in order. -/
def writtenNumbers (zone : Zone) (desk : Desk) (events : List Event) : List Int :=
  (desk.written zone events).map (·.2.recordNumber)

variable {zone : Zone} {desk : Desk} {m : Message} {events rest : List Event}

theorem number_after_message (zone : Zone) (desk : Desk) (m : Message) :
    (desk.after zone (.message m)).number = desk.number + if m.isData then 1 else 0 :=
  (taken_take zone desk m).counter

theorem number_after_other {event : Event} (h : ∀ m, event ≠ .message m) :
    (desk.after zone event).number = desk.number := by
  cases event with
  | message m => exact absurd rfl (h m)
  | reset | change => rfl

theorem row?_take {row : Row} (h : (desk.take zone m).row? = some row) :
    m.isData = true ∧ row.recordNumber = desk.number + 1 :=
  (taken_take zone desk m).row h

theorem row?_of_other (h : m.isData = false) : (desk.take zone m).row? = none := by
  cases hRow : (desk.take zone m).row? with
  | none => rfl
  | some row =>
    have hData := (row?_take hRow).1
    rw [h] at hData
    cases hData

theorem dataArrivals_message (zone : Zone) (desk : Desk) (m : Message) (rest : List Event) :
    desk.dataArrivals zone (.message m :: rest) =
      (if m.isData then [(desk, m)] else []) ++
        (desk.after zone (.message m)).dataArrivals zone rest := by
  rw [dataArrivals, arrivals_message, List.filter_cons]
  split <;> simp [dataArrivals]

theorem dataArrivals_other {event : Event} (h : ∀ m, event ≠ .message m) :
    desk.dataArrivals zone (event :: rest) = (desk.after zone event).dataArrivals zone rest := by
  rw [dataArrivals, arrivals_other zone desk rest h, dataArrivals]

theorem number_run (zone : Zone) (desk : Desk) (events : List Event) :
    (desk.run zone events).number = desk.number + (desk.dataArrivals zone events).length := by
  induction events generalizing desk with
  | nil => simp [dataArrivals, arrivals]
  | cons event rest ih =>
    rw [run_cons, ih]
    cases event with
    | message m =>
      rw [number_after_message, dataArrivals_message]
      cases m.isData <;> simp
      omega
    | reset | change => rw [dataArrivals_other (by simp), number_after_other (by simp)]

/-- The data message at place `n`, counted from zero, finds the desk with `n` more numbers taken
than at the start. -/
theorem number_of_dataArrivals {n : Nat} {arrival : Desk × Message}
    (h : (desk.dataArrivals zone events)[n]? = some arrival) :
    arrival.1.number = desk.number + n := by
  induction events generalizing desk n with
  | nil => simp [dataArrivals, arrivals] at h
  | cons event rest ih =>
    cases event with
    | message other =>
      have hAfter := number_after_message zone desk other
      rw [dataArrivals_message] at h
      cases hData : other.isData with
      | false =>
        simp only [hData, Bool.false_eq_true, if_false, List.nil_append] at h hAfter
        rw [ih h, hAfter, Int.add_zero]
      | true =>
        simp only [hData, if_true, List.singleton_append] at h hAfter
        cases n with
        | zero =>
          cases h
          simp
        | succ n =>
          have hRest := ih (List.getElem?_cons_succ ▸ h)
          push_cast
          omega
    | reset | change =>
      rw [dataArrivals_other (by simp)] at h
      rw [ih h, number_after_other (by simp)]

def writtenNumber? (zone : Zone) (arrival : Desk × Message) : Option Int :=
  (arrival.1.take zone arrival.2).written?.map fun _ => arrival.1.number + 1

theorem writtenNumbers_eq (zone : Zone) (desk : Desk) (events : List Event) :
    desk.writtenNumbers zone events =
      (desk.dataArrivals zone events).filterMap (writtenNumber? zone) := by
  induction events generalizing desk with
  | nil => rfl
  | cons event rest ih =>
    cases event with
    | message m =>
      rw [writtenNumbers, written_message, dataArrivals_message, List.map_append,
        List.filterMap_append, ← ih, writtenNumbers]
      congr 1
      cases hWritten : (desk.take zone m).written? with
      | none => split <;> simp [writtenNumber?, hWritten]
      | some written =>
        obtain ⟨names, row⟩ := written
        obtain ⟨hData, hNumber⟩ := row?_take (Handled.row?_of_written? hWritten)
        simp [hData, writtenNumber?, hWritten, hNumber]
    | reset | change =>
      rw [dataArrivals_other (by simp), ← ih]
      rfl

theorem pairwise_writtenNumbers (zone : Zone) (desk : Desk) (events : List Event) :
    (desk.writtenNumbers zone events).Pairwise (· < ·) := by
  have hArrivals : (desk.dataArrivals zone events).Pairwise
      fun earlier later => earlier.1.number < later.1.number := by
    rw [List.pairwise_iff_getElem]
    intro i j hi hj hLess
    have hEarlier := number_of_dataArrivals (List.getElem?_eq_getElem hi)
    have hLater := number_of_dataArrivals (List.getElem?_eq_getElem hj)
    omega
  rw [writtenNumbers_eq]
  refine hArrivals.filterMap _ fun earlier later hLess number hNumber other hOther => ?_
  obtain ⟨-, -, rfl⟩ := Option.map_eq_some_iff.mp hNumber
  obtain ⟨-, -, rfl⟩ := Option.map_eq_some_iff.mp hOther
  omega

theorem mem_writtenNumbers_iff {number : Int} :
    number ∈ desk.writtenNumbers zone events ↔
      ∃ (n : Nat) (before : Desk) (m : Message),
        (desk.dataArrivals zone events)[n]? = some (before, m) ∧
          (before.take zone m).written?.isSome = true ∧ number = desk.number + (n + 1) := by
  rw [writtenNumbers_eq, List.mem_filterMap]
  constructor
  · rintro ⟨⟨before, m⟩, hArrival, hNumber⟩
    obtain ⟨n, hAt⟩ := List.getElem?_of_mem hArrival
    obtain ⟨written, hWritten, hEq⟩ := Option.map_eq_some_iff.mp hNumber
    have hBefore := number_of_dataArrivals hAt
    exact ⟨n, before, m, hAt, Option.isSome_of_eq_some hWritten, by omega⟩
  · rintro ⟨n, before, m, hAt, hWritten, rfl⟩
    obtain ⟨written, hWritten⟩ := Option.isSome_iff_exists.mp hWritten
    have hBefore := number_of_dataArrivals hAt
    refine ⟨(before, m), List.mem_of_getElem? hAt, ?_⟩
    exact Option.map_eq_some_iff.mpr ⟨written, hWritten, by omega⟩

/-- The numbering of a run, whatever becomes of its messages. The `n`-th data message takes the
number that is `n` above that of the start, and its row carries it; no other message takes a number
or has a row. The numbers of the written rows go up, each is that of a data message, and only those
of data messages that were not written are left out. What is said to be written is what comes to
the file. -/
theorem numbering_exact (zone : Zone) (desk : Desk) (events : List Event) :
    let data := desk.dataArrivals zone events
    let column := desk.writtenNumbers zone events
    (desk.run zone events).number = desk.number + data.length ∧
      (∀ (n : Nat) (before : Desk) (m : Message), data[n]? = some (before, m) →
        before.number = desk.number + n ∧
          (before.after zone (.message m)).number = desk.number + (n + 1) ∧
          (∀ row, (before.take zone m).row? = some row →
            row.recordNumber = desk.number + (n + 1)) ∧
          (desk.number + (n + 1) ∈ column ↔ (before.take zone m).written?.isSome = true)) ∧
      (∀ before m, (before, m) ∈ desk.arrivals zone events → m.isData = false →
        (before.after zone (.message m)).number = before.number ∧
          (before.take zone m).row? = none) ∧
      column.Pairwise (· < ·) ∧
      (∀ number ∈ column, ∃ n < data.length, number = desk.number + (n + 1)) ∧
      ∀ before m, (before, m) ∈ desk.arrivals zone events →
        (before.take zone m).AppendsItsRow before.intake.dispatcher.tablePath before.tree := by
  intro data column
  refine ⟨number_run zone desk events, ?_, ?_, pairwise_writtenNumbers zone desk events, ?_, ?_⟩
  · intro n before m hAt
    have hBefore : before.number = desk.number + n := number_of_dataArrivals hAt
    have hData : m.isData = true := by
      simpa using (List.mem_filter.mp (List.mem_of_getElem? hAt)).2
    refine ⟨hBefore, ?_, ?_, ?_, ?_⟩
    · rw [number_after_message, hBefore, hData, if_pos rfl, Int.add_assoc]
    · intro row hRow
      rw [(row?_take hRow).2, hBefore, Int.add_assoc]
    · intro hMember
      obtain ⟨other, before', m', hAt', hWritten, hEq⟩ := mem_writtenNumbers_iff.mp hMember
      obtain rfl : n = other := by omega
      obtain ⟨rfl, rfl⟩ : before = before' ∧ m = m' := by
        simpa using hAt.symm.trans hAt'
      exact hWritten
    · intro hWritten
      exact mem_writtenNumbers_iff.mpr ⟨n, before, m, hAt, hWritten, rfl⟩
  · intro before m _ hOther
    exact ⟨by simp [number_after_message, hOther], row?_of_other hOther⟩
  · intro number hMember
    obtain ⟨n, before, m, hAt, -, hEq⟩ := mem_writtenNumbers_iff.mp hMember
    exact ⟨n, (List.getElem?_eq_some_iff.mp hAt).1, hEq⟩
  · intro before m _
    exact appendsItsRow_take zone before m

end

attribute [local instance] Host.usual

/-- A payload that is no record leaves a gap between two that are. -/
theorem numbering_exact_gap :
    let unread : Message := ⟨Message.sample.topic, some (.text "no record")⟩
    let events : List Event := [.message .sample, .message unread, .message .sample]
    (fresh LogWriter.usualPath).writtenNumbers .universal events = [1, 3] ∧
      ((fresh LogWriter.usualPath).run .universal events).number = 3 := by
  intro unread events
  have hNumber := (numbering_exact .universal (fresh LogWriter.usualPath) events).1
  exact ⟨by decide +kernel, hNumber.trans (by decide +kernel)⟩

end Desk

end TelemetryLog
