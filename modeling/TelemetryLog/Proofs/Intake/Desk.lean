import TelemetryLog.Intake
import TelemetryLog.Proofs.Dispatch
import TelemetryLog.Proofs.Report
import TelemetryLog.Run

/-! A desk: an intake beside the tree in which it writes its log. At a desk messages are taken, the
accounts are opened anew, and others change the tree as they like. `Taken` has a case for each
course that a message can take, with all that becomes of the tree and of the intake. -/

namespace TelemetryLog

namespace Message

def identity (m : Message) : Identity := .classify m.topic

def isData (m : Message) : Bool := m.identity.kind = .data

/-- Whether a message is a metadata message that can be read but not told of at a threshold: the
first definition of a field is nested too deep to be put to words, and the journal lets the lines of
definitions through. -/
def isUntellable [Host] (threshold : Threshold) (m : Message) : Bool :=
  m.identity.kind = .metadata && threshold.weight ≤ Level.info.weight &&
    m.payload.any fun payload =>
      match Metadata.ofPayload payload with
      | .ok metadata => metadata.firstDefinitions.any (·.2.isUnreportable)
      | .error _ => false

theorem isUntellable_iff [Host] {threshold : Threshold} {m : Message} :
    m.isUntellable threshold = true ↔
      m.identity.kind = .metadata ∧ threshold.weight ≤ Level.info.weight ∧
        ∃ payload metadata, m.payload = some payload ∧ Metadata.ofPayload payload = .ok metadata ∧
          ∃ definition ∈ metadata.firstDefinitions, definition.2.isUnreportable = true := by
  rw [isUntellable]
  cases m.payload with
  | none => simp
  | some payload =>
    cases hMetadata : Metadata.ofPayload payload with
    | error fault => simp [hMetadata]
    | ok metadata => simp [hMetadata, and_assoc]

/-- A data message with one column and one sample. -/
def sample : Message :=
  ⟨.scalar (.text "cs/v1/data/m/s/t"),
    some (.text ("\x7b\"head\":\x7b\"fields\":[\x7b\"name\":\"A\"\x7d]\x7d," ++
      "\"data\":[\x7b\"time\":0,\"vals\":[1]\x7d]\x7d"))⟩

end Message

structure Desk where
  intake : Intake
  tree : Tree

inductive Event where
  | message (m : Message)
  | reset
  | change (alter : Tree → Tree)

namespace Desk

/-- A desk that has had no message and writes to a path in an empty tree. -/
def fresh (path : Path) : Desk :=
  ⟨.new (.new (.new path) .zero "") 100 .everything, .empty⟩

variable [Host]

def take (zone : Zone) (desk : Desk) (m : Message) : Handled :=
  desk.intake.handle zone desk.tree m.topic m.payload

def after (zone : Zone) (desk : Desk) : Event → Desk
  | .message m => ⟨(desk.take zone m).intake, (desk.take zone m).tree⟩
  | .reset => { desk with intake := desk.intake.reset }
  | .change alter => { desk with tree := alter desk.tree }

def run (zone : Zone) (desk : Desk) (events : List Event) : Desk :=
  events.foldl (after zone) desk

/-- The messages of a run, in order, each with the desk that it comes to. -/
def arrivals (zone : Zone) (desk : Desk) : List Event → List (Desk × Message)
  | [] => []
  | .message m :: rest => (desk, m) :: arrivals zone (desk.after zone (.message m)) rest
  | event :: rest => arrivals zone (desk.after zone event) rest

/-- How a message fares at a desk: the tree and the intake that it leaves, and its outcome. -/
inductive Taken (desk : Desk) (m : Message) : Tree → Intake → Option Outcome → Prop
  | told {after : Tree} {dispatcher : Dispatcher} {outcome : Outcome}
      (hFate : desk.intake.dispatcher.Fate desk.tree m.identity after dispatcher (.ok outcome))
      (hTold : m.isUntellable desk.intake.threshold = false) :
      Taken desk m after
        { desk.intake with dispatcher, accounts := desk.intake.accounts.receive.record outcome }
        (some outcome)
  | untold (definitions : List (Scalar × Value)) (keys : List String)
      (hKind : m.identity.kind = .metadata)
      (hUntold : m.isUntellable desk.intake.threshold = true) :
      Taken desk m desk.tree
        { desk.intake with
          accounts := (desk.intake.accounts.receive.record
            (.metadataHandled m.identity definitions keys)).fail }
        none
  | broken {after : Tree} {dispatcher : Dispatcher} {fault : DispatchFault}
      (hFate : desk.intake.dispatcher.Fate desk.tree m.identity after dispatcher (.error fault))
      (hTold : m.isUntellable desk.intake.threshold = false) :
      Taken desk m after
        { desk.intake with dispatcher, accounts := desk.intake.accounts.receive.fail } none

@[simp] theorem run_nil (zone : Zone) (desk : Desk) : desk.run zone [] = desk := rfl

@[simp] theorem run_cons (zone : Zone) (desk : Desk) (event : Event) (rest : List Event) :
    desk.run zone (event :: rest) = (desk.after zone event).run zone rest := rfl

theorem arrivals_message (zone : Zone) (desk : Desk) (m : Message) (rest : List Event) :
    desk.arrivals zone (.message m :: rest) =
      (desk, m) :: (desk.after zone (.message m)).arrivals zone rest := rfl

theorem arrivals_other (zone : Zone) (desk : Desk) {event : Event} (rest : List Event)
    (h : ∀ m, event ≠ .message m) :
    desk.arrivals zone (event :: rest) = (desk.after zone event).arrivals zone rest := by
  cases event with
  | message m => exact absurd rfl (h m)
  | reset | change => rfl

variable {zone : Zone} {desk : Desk} {m : Message}

theorem dispatch_metadata (zone : Zone) (d : Dispatcher) (tree : Tree) {identity : Identity}
    (topic : Value) (payload : Payload) (h : identity.kind = .metadata) :
    (d.dispatch zone tree identity topic (some payload)).result =
      Dispatcher.readMetadata identity payload := by
  simp only [Dispatcher.dispatch, h]

/-- There are words for what a message comes to unless the message is one that cannot be told of. -/
theorem untellable_iff {outcome : Outcome} {threshold : Threshold}
    (h : (desk.intake.dispatcher.dispatch zone desk.tree m.identity m.topic m.payload).result =
      .ok outcome) :
    outcome.Untellable threshold ↔ m.isUntellable threshold = true := by
  rw [Message.isUntellable_iff]
  constructor
  · intro hOutcome
    have hFate := Dispatcher.fate_dispatch zone desk.intake.dispatcher desk.tree m.identity
      m.topic m.payload
    obtain ⟨identity, definitions, keys, rfl⟩ := hOutcome.eq_metadataHandled
    simp only [h] at hFate
    obtain ⟨hKind, -, -, -⟩ := hFate.of_metadataHandled
    refine ⟨hKind, hOutcome.1, ?_⟩
    -- The definitions of the outcome are those that were read from the payload.
    cases hPayload : m.payload with
    | none => simp [hPayload, Dispatcher.dispatch, hKind] at h
    | some payload =>
      rw [hPayload, dispatch_metadata _ _ _ _ _ hKind, Dispatcher.readMetadata] at h
      split at h
      · cases h
      · cases h
      · rename_i metadata hMetadata
        cases h
        obtain ⟨definition, hMember, hDeep⟩ := hOutcome.2
        obtain ⟨first, hFirst, rfl⟩ := List.mem_map.mp hMember
        exact ⟨payload, metadata, rfl, hMetadata, first, hFirst, hDeep⟩
  · rintro ⟨hKind, hWeight, payload, metadata, hPayload, hMetadata, first, hFirst, hDeep⟩
    rw [hPayload, dispatch_metadata _ _ _ _ _ hKind, Dispatcher.readMetadata, hMetadata] at h
    cases h
    exact ⟨hWeight, _, List.mem_map_of_mem hFirst, hDeep⟩

theorem not_untellable_of_error {fault : DispatchFault} {threshold : Threshold}
    (h : (desk.intake.dispatcher.dispatch zone desk.tree m.identity m.topic m.payload).result =
      .error fault) :
    m.isUntellable threshold = false := by
  rw [← Bool.not_eq_true, Message.isUntellable_iff]
  rintro ⟨hKind, -, payload, metadata, hPayload, hMetadata, -⟩
  rw [hPayload, dispatch_metadata _ _ _ _ _ hKind, Dispatcher.readMetadata, hMetadata] at h
  cases h

/-- The report of what a message comes to breaks off only where there are no words for the outcome. -/
theorem reportFault_isSome_iff {outcome : Outcome}
    (h : (desk.intake.dispatcher.dispatch zone desk.tree m.identity m.topic m.payload).result =
      .ok outcome) :
    (Report.told desk.intake.threshold (Report.ofOutcome outcome)).2.isSome = true ↔
      outcome.Untellable desk.intake.threshold := by
  have hFate := Dispatcher.fate_dispatch zone desk.intake.dispatcher desk.tree m.identity
    m.topic m.payload
  simp only [h] at hFate
  refine Report.told_ofOutcome_isSome_iff fun identity hIdentity label => ?_
  -- A topic gives no kind for which the line about the source would have no words.
  rw [hFate.identity_eq rfl hIdentity]
  exact Identity.kind_classify m.topic label

/-- Every message is taken in one of the ways of `Taken`. -/
theorem taken_take (zone : Zone) (desk : Desk) (m : Message) :
    let done := desk.take zone m
    Taken desk m done.tree done.intake done.outcome := by
  have hFate := Dispatcher.fate_dispatch zone desk.intake.dispatcher desk.tree
    (.classify m.topic) m.topic m.payload
  simp only [take, Intake.handle]
  split
  · rename_i outcome hResult
    simp only [hResult] at hFate
    have hTold := reportFault_isSome_iff hResult
    split
    · rename_i hReport
      exact .told hFate (by simpa [hReport, untellable_iff hResult] using hTold)
    · rename_i hReport
      have hUntold : outcome.Untellable desk.intake.threshold := by simpa [hReport] using hTold
      obtain ⟨identity, definitions, keys, rfl⟩ := hUntold.eq_metadataHandled
      obtain ⟨hKind, hIdentity, hTree, hDispatcher⟩ := hFate.of_metadataHandled
      rw [hIdentity, hTree, hDispatcher]
      exact .untold definitions keys hKind ((untellable_iff hResult).mp hUntold)
  · rename_i fault hResult
    simp only [hResult] at hFate
    exact .broken hFate (not_untellable_of_error hResult)

namespace Taken

variable {after : Tree} {intake : Intake} {outcome : Option Outcome}

theorem tablePath (h : Taken desk m after intake outcome) :
    intake.dispatcher.tablePath = desk.intake.dispatcher.tablePath := by
  cases h with
  | told hFate | broken hFate => exact hFate.tablePath
  | untold => rfl

theorem threshold (h : Taken desk m after intake outcome) :
    intake.threshold = desk.intake.threshold := by
  cases h <;> rfl

theorem counter (h : Taken desk m after intake outcome) :
    intake.dispatcher.counter.value =
      desk.intake.dispatcher.counter.value + if m.isData then 1 else 0 := by
  cases h with
  | told hFate | broken hFate => simpa [Message.isData] using hFate.counter
  | untold _ _ hKind => simp [Message.isData, hKind]

theorem row (h : Taken desk m after intake outcome) {row : Row}
    (hRow : outcome.bind Outcome.row? = some row) :
    m.isData = true ∧ row.recordNumber = desk.intake.dispatcher.counter.value + 1 := by
  cases h with
  | told hFate =>
    obtain ⟨hKind, hNumber⟩ := hFate.row rfl hRow
    exact ⟨decide_eq_true hKind, hNumber⟩
  | untold | broken => cases hRow

theorem rowAppended (h : Taken desk m after intake outcome) {names : List String} {row : Row}
    (hWritten : outcome.bind Outcome.written? = some (names, row)) :
    ∃ here, RowAppended desk.intake.dispatcher.tablePath names row desk.tree after here := by
  cases h with
  | told hFate => exact hFate.rowAppended rfl hWritten
  | untold | broken => cases hWritten

theorem addedOnWay (h : Taken desk m after intake outcome)
    (hNone : outcome.bind Outcome.written? = none) :
    Tree.AddedOnWay desk.intake.dispatcher.tablePath.parent desk.tree after := by
  cases h with
  | told hFate =>
    refine hFate.addedOnWay fun outcome hOutcome => ?_
    cases hOutcome
    exact hNone
  | untold => exact .refl
  | broken hFate => exact hFate.addedOnWay fun outcome hOutcome => by cases hOutcome

end Taken

theorem tablePath_after (zone : Zone) (desk : Desk) (event : Event) :
    (desk.after zone event).intake.dispatcher.tablePath = desk.intake.dispatcher.tablePath := by
  cases event with
  | message m => exact (taken_take zone desk m).tablePath
  | reset | change => rfl

theorem threshold_after (zone : Zone) (desk : Desk) (event : Event) :
    (desk.after zone event).intake.threshold = desk.intake.threshold := by
  cases event with
  | message m => exact (taken_take zone desk m).threshold
  | reset | change => rfl

theorem tablePath_run (zone : Zone) (desk : Desk) (events : List Event) :
    (desk.run zone events).intake.dispatcher.tablePath = desk.intake.dispatcher.tablePath := by
  induction events generalizing desk with
  | nil => rfl
  | cons event rest ih => exact (ih _).trans (tablePath_after zone desk event)

theorem threshold_run (zone : Zone) (desk : Desk) (events : List Event) :
    (desk.run zone events).intake.threshold = desk.intake.threshold := by
  induction events generalizing desk with
  | nil => rfl
  | cons event rest ih => exact (ih _).trans (threshold_after zone desk event)

end Desk

end TelemetryLog
