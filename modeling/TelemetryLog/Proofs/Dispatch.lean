import TelemetryLog.Dispatch
import TelemetryLog.Proofs.Table.Append
import TelemetryLog.Proofs.Table.Batch

/-! How messages fare at a dispatcher. `Fate` has a case for each course that a dispatch can take,
with all that it does to the tree and to the dispatcher; what holds of every dispatch is read off
these cases. -/

namespace TelemetryLog

namespace Outcome

def identity? : Outcome → Option Identity
  | .dataHandled identity .. | .metadataHandled identity .. | .decodeFailed identity .. =>
    some identity
  | .unclassified .. => none

/-- The columns and the row that an outcome has put into the log. -/
def written? : Outcome → Option (List String × Row)
  | .dataHandled _ names row _ none => some (names, row)
  | _ => none

/-- The row of an outcome, whether or not it is in the log. -/
def row? : Outcome → Option Row
  | .dataHandled _ _ row _ _ => some row
  | _ => none

end Outcome

namespace Dispatcher

/-- The dispatcher once a message of an identity has taken a record number, if it takes one. -/
def countFor (identity : Identity) (d : Dispatcher) : Dispatcher :=
  if identity.kind = .data then d.count else d

theorem countFor_data {identity : Identity} (h : identity.kind = .data) (d : Dispatcher) :
    d.countFor identity = d.count := if_pos h

theorem countFor_other {identity : Identity} (h : identity.kind ≠ .data) (d : Dispatcher) :
    d.countFor identity = d := if_neg h

theorem countFor_writer (identity : Identity) (d : Dispatcher) :
    (d.countFor identity).writer = d.writer := by
  unfold countFor
  split <;> rfl

/-- How a message of an identity can fare at the dispatcher `d` with a tree: the tree and the
dispatcher that it leaves, and its outcome or why it has none. -/
inductive Fate (d : Dispatcher) (tree : Tree) (identity : Identity) :
    Tree → Dispatcher → Except DispatchFault Outcome → Prop
  | unclassified (topic : Value) (rawPayload : String) (hKind : identity.kind = .unknown) :
      Fate d tree identity tree d (.ok (.unclassified topic rawPayload))
  | metadata (definitions : List (Scalar × Value)) (keys : List String)
      (hKind : identity.kind = .metadata) :
      Fate d tree identity tree d (.ok (.metadataHandled identity definitions keys))
  | refused (fault : DecodeFault) :
      Fate d tree identity tree (d.countFor identity) (.ok (refusal identity fault))
  | written {after : Tree} {here : Location} {names : List String} {row : Row}
      (hKind : identity.kind = .data) (hNumber : row.recordNumber = d.counter.value + 1)
      (hTree : RowAppended d.tablePath names row tree after here) :
      Fate d tree identity after { d.count with writer := d.writer.wrote }
        (.ok (.dataHandled identity names row (some d.tablePath.text) none))
  | unwritten {after : Tree} {names : List String} {row : Row} (fault : AppendFault)
      (hKind : identity.kind = .data) (hNumber : row.recordNumber = d.counter.value + 1)
      (hTree : Tree.AddedOnWay d.tablePath.parent tree after) :
      Fate d tree identity after { d.count with writer := d.writer.failed }
        (.ok (.dataHandled identity names row (some d.tablePath.text) (some fault.message)))
  | broken {after : Tree} (fault : DispatchFault)
      (hTree : Tree.AddedOnWay d.tablePath.parent tree after) :
      Fate d tree identity after (d.countFor identity) (.error fault)

variable {d : Dispatcher} {tree : Tree} {identity : Identity}

theorem fate_broken_data (hKind : identity.kind = .data) {after : Tree} (fault : DispatchFault)
    (hTree : Tree.AddedOnWay d.tablePath.parent tree after) :
    Fate d tree identity after d.count (.error fault) := by
  rw [← countFor_data hKind d]
  exact .broken fault hTree

theorem fate_refused_data (hKind : identity.kind = .data) (fault : DecodeFault) :
    Fate d tree identity tree d.count (.ok (refusal identity fault)) := by
  rw [← countFor_data hKind d]
  exact .refused fault

theorem fate_broken_other (hKind : identity.kind ≠ .data) (fault : DispatchFault) :
    Fate d tree identity tree d (.error fault) := by
  have h : Fate d tree identity tree (d.countFor identity) (.error fault) :=
    .broken fault .refl
  rwa [countFor_other hKind] at h

theorem fate_refused_other (hKind : identity.kind ≠ .data) (fault : DecodeFault) :
    Fate d tree identity tree d (.ok (refusal identity fault)) := by
  have h : Fate d tree identity tree (d.countFor identity) (.ok (refusal identity fault)) :=
    .refused fault
  rwa [countFor_other hKind] at h

theorem fate_writeRow [Host] (hKind : identity.kind = .data) {names : List String} {row : Row}
    (hNumber : row.recordNumber = d.counter.value + 1) :
    let done := d.count.writeRow tree identity names row
    Fate d tree identity done.tree done.dispatcher done.result := by
  have hCases := d.count.writer.append_cases tree d.count.tablePath names row
  simp only [writeRow]
  rcases hCases with ⟨hResult, hWriter, here, hTree⟩ | ⟨fault, hResult, hWriter, hTree⟩
  · rw [hResult, hWriter]
    exact .written hKind hNumber hTree
  · rw [hResult, hWriter]
    cases fault with
    | storage fault path => exact .unwritten _ hKind hNumber hTree
    | nulInPath => exact fate_broken_data hKind .nulInPath hTree
    | tooDeep => exact fate_broken_data hKind .deepDirectory hTree

theorem fate_readData [Host] (zone : Zone) (hKind : identity.kind = .data) (payload : Payload) :
    let done := d.count.readData zone tree identity payload
    Fate d tree identity done.tree done.dispatcher done.result := by
  simp only [readData]
  split
  · exact fate_broken_data hKind .deepValue .refl
  · exact fate_refused_data hKind _
  · split
    · exact fate_refused_data hKind _
    · rename_i hRow
      obtain ⟨time, -, rfl, rfl⟩ := Row.ofBatch_eq_ok.mp hRow
      exact fate_writeRow hKind rfl

theorem fate_readMetadata [Host] (hKind : identity.kind = .metadata) (payload : Payload) :
    Fate d tree identity tree d (readMetadata identity payload) := by
  have hOther : identity.kind ≠ .data := by simp [hKind]
  rw [readMetadata]
  split
  · exact fate_broken_other hOther _
  · exact fate_refused_other hOther _
  · exact .metadata _ _ hKind

/-- Every message fares in one of the ways of `Fate`. -/
theorem fate_dispatch [Host] (zone : Zone) (d : Dispatcher) (tree : Tree) (identity : Identity)
    (topic : Value) (payload : Option Payload) :
    let done := d.dispatch zone tree identity topic payload
    Fate d tree identity done.tree done.dispatcher done.result := by
  simp only [dispatch]
  split
  · exact fate_broken_other (by simp [*]) _
  · exact fate_broken_data ‹_› .missingPayload .refl
  · exact fate_readData zone ‹_› _
  · exact fate_broken_other ‹_› _
  · exact fate_readMetadata ‹_› _
  · exact .unclassified topic _ ‹_›

namespace Fate

variable {after : Tree} {d' : Dispatcher} {result : Except DispatchFault Outcome}

/-- A data message takes one number, and no other message takes any. -/
theorem counter (h : Fate d tree identity after d' result) :
    d'.counter.value = d.counter.value + if identity.kind = .data then 1 else 0 := by
  have hCount : (d.countFor identity).counter.value =
      d.counter.value + if identity.kind = .data then 1 else 0 := by
    by_cases hKind : identity.kind = .data
    · rw [countFor_data hKind, if_pos hKind]
      rfl
    · rw [countFor_other hKind, if_neg hKind, Int.add_zero]
  cases h with
  | unclassified _ _ hKind => simp [hKind]
  | metadata _ _ hKind => simp [hKind]
  | refused | broken => exact hCount
  | written hKind | unwritten _ hKind => rw [if_pos hKind]; rfl

theorem tablePath (h : Fate d tree identity after d' result) : d'.tablePath = d.tablePath := by
  have hCount : (d.countFor identity).tablePath = d.tablePath := by
    rw [countFor]
    split <;> rfl
  cases h with
  | refused | broken => exact hCount
  | _ => rfl

theorem identity_eq (h : Fate d tree identity after d' result) {outcome : Outcome}
    {told : Identity} (hResult : result = .ok outcome) (hTold : outcome.identity? = some told) :
    told = identity := by
  cases h <;> cases hResult <;> cases hTold <;> rfl

/-- Only a metadata message comes to a metadata record, and it changes nothing. -/
theorem of_metadataHandled {told : Identity} {definitions : List (Scalar × Value)}
    {keys : List String}
    (h : Fate d tree identity after d' (.ok (.metadataHandled told definitions keys))) :
    identity.kind = .metadata ∧ told = identity ∧ after = tree ∧ d' = d := by
  cases h with
  | metadata _ _ hKind => exact ⟨hKind, rfl, rfl, rfl⟩

/-- A payload that is refused costs no more than a record number. -/
theorem of_decodeFailed {told : Identity} {cause rawPayload : String}
    (h : Fate d tree identity after d' (.ok (.decodeFailed told cause rawPayload))) :
    after = tree ∧ d' = d.countFor identity := by
  cases h with
  | refused => exact ⟨rfl, rfl⟩

/-- A row that has been written stands at the end of the log. -/
theorem rowAppended (h : Fate d tree identity after d' result) {outcome : Outcome}
    {names : List String} {row : Row} (hResult : result = .ok outcome)
    (hWritten : outcome.written? = some (names, row)) :
    ∃ here, RowAppended d.tablePath names row tree after here := by
  cases h with
  | written _ _ hTree =>
    cases hResult
    cases hWritten
    exact ⟨_, hTree⟩
  | _ => cases hResult <;> cases hWritten

/-- A message without a row that has been written adds no more than directories on the way. -/
theorem addedOnWay (h : Fate d tree identity after d' result)
    (hNone : ∀ outcome, result = .ok outcome → outcome.written? = none) :
    Tree.AddedOnWay d.tablePath.parent tree after := by
  cases h with
  | unclassified | metadata | refused => exact .refl
  | written => exact absurd (hNone _ rfl) (by simp [Outcome.written?])
  | unwritten _ _ _ hTree | broken _ hTree => exact hTree

/-- Only data messages have rows, and a row carries the number that the message took. -/
theorem row (h : Fate d tree identity after d' result) {outcome : Outcome} {row : Row}
    (hResult : result = .ok outcome) (hRow : outcome.row? = some row) :
    identity.kind = .data ∧ row.recordNumber = d.counter.value + 1 := by
  cases h with
  | written hKind hNumber | unwritten _ hKind hNumber =>
    cases hResult
    cases hRow
    exact ⟨hKind, hNumber⟩
  | _ => cases hResult <;> cases hRow

end Fate

end Dispatcher

end TelemetryLog
