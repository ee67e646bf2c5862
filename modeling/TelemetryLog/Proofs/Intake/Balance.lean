import TelemetryLog.Proofs.Intake.Desk
import TelemetryLog.Proofs.Json.Reader

/-! The accounts of a desk. Every message is received and then counts once as processed or failed,
but for those that cannot be told of: they are processed, and fail as well when their report breaks
off. The writer and the accounts count the same rows and the same write errors. -/

namespace TelemetryLog

namespace Accounts

/-- The accounts `b` come from `a` by one message, of which it is known whether it cannot be told of
and whether it has no outcome. -/
structure Counts (untellable noOutcome : Bool) (a b : Accounts) : Prop where
  received : b.received = a.received + 1
  settled : b.processed + b.failed = a.processed + a.failed + 1 + untellable.toNat
  kinds : b.processed + b.writeErrors + (a.dataRecords + a.metadataRecords + a.unclassified) =
    a.processed + a.writeErrors + (b.dataRecords + b.metadataRecords + b.unclassified)
  failures : b.failed + (a.decodeErrors + a.writeErrors) =
    a.failed + (b.decodeErrors + b.writeErrors) + noOutcome.toNat

theorem counts_record (a : Accounts) (outcome : Outcome) :
    Counts false false a (a.receive.record outcome) := by
  unfold record receive
  split <;> constructor <;> simp only [Bool.toNat_false] <;> omega

theorem counts_fail (a : Accounts) : Counts false true a a.receive.fail := by
  unfold receive fail
  constructor <;> simp only [Bool.toNat_false, Bool.toNat_true] <;> omega

theorem counts_fail_record (a : Accounts) (identity : Identity)
    (definitions : List (Scalar × Value)) (keys : List String) :
    Counts true true a (a.receive.record (.metadataHandled identity definitions keys)).fail := by
  unfold record receive fail
  constructor <;> simp only [Bool.toNat_true] <;> omega

theorem countP_append_one {α : Type} (p : α → Bool) (l : List α) (x : α) :
    (l ++ [x]).countP p = l.countP p + (p x).toNat := by
  cases h : p x <;> simp [h]

variable [Host]

/-- What the accounts come to when the messages `taken` have come since they were opened at a desk
with a threshold. -/
structure Balanced (zone : Zone) (threshold : Threshold) (taken : List (Desk × Message))
    (a : Accounts) : Prop where
  received : a.received = taken.length
  settled : a.processed + a.failed = a.received + taken.countP (·.2.isUntellable threshold)
  kinds : a.processed + a.writeErrors = a.dataRecords + a.metadataRecords + a.unclassified
  failures : a.failed = a.decodeErrors + a.writeErrors +
    taken.countP fun arrival => (arrival.1.take zone arrival.2).outcome.isNone

variable {zone : Zone} {threshold : Threshold} {taken : List (Desk × Message)}

theorem Balanced.zero : Balanced zone threshold [] Accounts.zero := ⟨rfl, rfl, rfl, rfl⟩

theorem Balanced.next {a b : Accounts} (h : a.Balanced zone threshold taken) {desk : Desk}
    {m : Message}
    (hCounts : Counts (m.isUntellable threshold) (desk.take zone m).outcome.isNone a b) :
    b.Balanced zone threshold (taken ++ [(desk, m)]) := by
  obtain ⟨hReceived, hSettled, hKinds, hFailures⟩ := h
  obtain ⟨hReceived', hSettled', hKinds', hFailures'⟩ := hCounts
  refine ⟨?_, ?_, by omega, ?_⟩
  · rw [List.length_append, List.length_singleton]
    omega
  · simp only [countP_append_one]
    omega
  · simp only [countP_append_one]
    omega

end Accounts

namespace LogWriter

/-- A writer has counted what accounts have counted since it was `start`. -/
structure AgreesWith (start : LogWriter) (a : Accounts) (writer : LogWriter) : Prop where
  rows : (writer.rowsWritten : Int) = start.rowsWritten + (a.dataRecords - a.writeErrors)
  errors : (writer.writeErrors : Int) = start.writeErrors + a.writeErrors

end LogWriter

namespace Desk

variable [Host]

/-- The messages since the accounts were opened last, each with the desk that it comes to; those of
`taken` came before the run. -/
def sinceOpened (zone : Zone) (desk : Desk) (taken : List (Desk × Message)) :
    List Event → List (Desk × Message)
  | [] => taken
  | .message m :: rest =>
    sinceOpened zone (desk.after zone (.message m)) (taken ++ [(desk, m)]) rest
  | .reset :: rest => sinceOpened zone (desk.after zone .reset) [] rest
  | .change alter :: rest => sinceOpened zone (desk.after zone (.change alter)) taken rest

variable {zone : Zone} {desk : Desk} {m : Message} {taken : List (Desk × Message)}

theorem Taken.counts {after : Tree} {intake : Intake} {outcome : Option Outcome}
    (h : Taken desk m after intake outcome) :
    Accounts.Counts (m.isUntellable desk.intake.threshold) outcome.isNone desk.intake.accounts
      intake.accounts := by
  cases h with
  | told _ hTold =>
    rw [hTold]
    exact Accounts.counts_record _ _
  | untold _ _ _ hUntold =>
    rw [hUntold]
    exact Accounts.counts_fail_record _ _ _ _
  | broken _ hTold =>
    rw [hTold]
    exact Accounts.counts_fail _

theorem balanced_run {threshold : Threshold} {events : List Event}
    (hThreshold : desk.intake.threshold = threshold)
    (h : desk.intake.accounts.Balanced zone threshold taken) :
    (desk.run zone events).intake.accounts.Balanced zone threshold
      (desk.sinceOpened zone taken events) := by
  induction events generalizing desk taken with
  | nil => exact h
  | cons event rest ih =>
    have hAfter := (threshold_after zone desk event).trans hThreshold
    rw [run_cons]
    cases event with
    | message m => exact ih hAfter (h.next (hThreshold ▸ (taken_take zone desk m).counts))
    | reset => exact ih hAfter .zero
    | change alter => exact ih hAfter h

/-- The writer counts a row or a write error whenever the accounts do. -/
theorem Taken.agreesWith {after : Tree} {intake : Intake} {outcome : Option Outcome}
    {start : LogWriter} (h : Taken desk m after intake outcome)
    (hAgrees : start.AgreesWith desk.intake.accounts desk.intake.dispatcher.writer) :
    start.AgreesWith intake.accounts intake.dispatcher.writer := by
  obtain ⟨hRows, hErrors⟩ := hAgrees
  cases h with
  | told hFate =>
    cases hFate with
    | unclassified | metadata => exact ⟨hRows, hErrors⟩
    | refused =>
      simp only [Dispatcher.countFor_writer]
      exact ⟨hRows, hErrors⟩
    | written =>
      constructor
      · simp only [LogWriter.wrote, Accounts.record, Accounts.receive]
        omega
      · exact hErrors
    | unwritten =>
      constructor <;> simp only [LogWriter.failed, Accounts.record, Accounts.receive] <;> omega
  | untold => exact ⟨hRows, hErrors⟩
  | broken hFate =>
    cases hFate with
    | broken =>
      simp only [Dispatcher.countFor_writer]
      exact ⟨hRows, hErrors⟩

theorem agreesWith_run {start : LogWriter} {events : List Event} (hOpen : .reset ∉ events)
    (h : start.AgreesWith desk.intake.accounts desk.intake.dispatcher.writer) :
    let last := desk.run zone events
    start.AgreesWith last.intake.accounts last.intake.dispatcher.writer := by
  induction events generalizing desk with
  | nil => exact h
  | cons event rest ih =>
    have hRest : .reset ∉ rest := fun hMember => hOpen (List.mem_cons_of_mem _ hMember)
    cases event with
    | message m => exact ih hRest ((taken_take zone desk m).agreesWith h)
    | reset => exact absurd List.mem_cons_self hOpen
    | change alter => exact ih hRest h

/-- The accounts of a desk after any run, since they were opened last. A message is received once,
and counts once as processed or failed unless it is one that cannot be told of, which counts as
both; so the messages received are those processed and those failed exactly when none of them was
such a message. The other accounts always agree with each other, and while the accounts are not
opened anew they agree with those of the writer. -/
theorem accounts_exact (zone : Zone) (d : Dispatcher) (statsEvery : Int) (threshold : Threshold)
    (tree : Tree) (events : List Event) :
    let desk : Desk := ⟨.new d statsEvery threshold, tree⟩
    let last := desk.run zone events
    let a := last.intake.accounts
    let taken := desk.sinceOpened zone [] events
    a.received = taken.length ∧
      a.processed + a.failed = a.received + taken.countP (·.2.isUntellable threshold) ∧
      (a.received = a.processed + a.failed ↔
        ∀ arrival ∈ taken, arrival.2.isUntellable threshold = false) ∧
      a.processed + a.writeErrors = a.dataRecords + a.metadataRecords + a.unclassified ∧
      a.failed = a.decodeErrors + a.writeErrors +
        taken.countP (fun arrival => (arrival.1.take zone arrival.2).outcome.isNone) ∧
      (.reset ∉ events → d.writer.AgreesWith a last.intake.dispatcher.writer) := by
  intro desk last a taken
  have hBalanced : a.Balanced zone threshold taken := balanced_run rfl .zero
  refine ⟨hBalanced.received, hBalanced.settled, ?_, hBalanced.kinds, hBalanced.failures, ?_⟩
  · have hSettled := hBalanced.settled
    have hNone : taken.countP (·.2.isUntellable threshold) = 0 ↔
        ∀ arrival ∈ taken, arrival.2.isUntellable threshold = false := by
      simp [List.countP_eq_zero]
    rw [← hNone]
    omega
  · intro hOpen
    exact agreesWith_run hOpen ⟨by simp [desk, Intake.new, Accounts.zero], rfl⟩

theorem Taken.accounts_of_untellable {after : Tree} {intake : Intake} {outcome : Option Outcome}
    (hTaken : Taken desk m after intake outcome)
    (h : m.isUntellable desk.intake.threshold = true) :
    let a := desk.intake.accounts
    intake.accounts =
      { a with
        received := a.received + 1
        processed := a.processed + 1
        metadataRecords := a.metadataRecords + 1
        failed := a.failed + 1 } := by
  cases hTaken with
  | told _ hTold | broken _ hTold =>
    rw [h] at hTold
    cases hTold
  | untold => rfl

end Desk

namespace Message

open Json

/-- The text of a metadata record with one field, whose first definition is an empty array within
`n` others. -/
def deepText (n : Nat) : List Char :=
  objectText "fields".toList
    (objectText "definitions".toList (objectText "A".toList (nestedText (n + 1))))

/-- A metadata message with one field, whose first definition is an empty array within `n`
others. -/
def deep (n : Nat) : Message :=
  ⟨.scalar (.text "cs/v1/metadata/m/s/t"), some (.bytes (Text.Utf8.encode (deepText n)))⟩

theorem reads_deepText (n : Nat) :
    Reads (n + 5) (2 * n + 9) (deepText n)
      (.object [(.text "fields", .object [(.text "definitions",
        .object [(.text "A", .array [nested n])])])]) :=
  (((reads_nested (n + 1)).object rfl).object rfl).object rfl

theorem deepText_ascii (n : Nat) : (deepText n).all Text.Utf8.isAscii = true :=
  objectText_ascii rfl (objectText_ascii rfl (objectText_ascii rfl (nestedText_ascii (n + 1))))

theorem ofPayload_deepText [Host] {n : Nat} (h : n + 5 ≤ Json.greatestDepth) :
    Metadata.ofPayload (.bytes (Text.Utf8.encode (deepText n))) =
      .ok ⟨[], [("A", [nested n])]⟩ := by
  have hSteps : 2 * n + 9 ≤ 2 * (deepText n).length + 2 := by
    simp only [deepText, objectText, List.length_append, List.length_cons, length_nestedText]
    omega
  rw [Metadata.ofPayload, decodeWith, Payload.octets,
    ofBytes?_eq_some (reads_deepText n) (deepText_ascii n) h hSteps]
  rfl

/-- A definition that goes deeper than words do, but no deeper than texts may, is read and cannot be
told of. -/
theorem isUntellable_deep [Host] {n : Nat} (hDeep : Host.reportDepth ≤ n)
    (hRead : n + 5 ≤ Json.greatestDepth) {threshold : Threshold}
    (hThreshold : threshold.weight ≤ Level.info.weight) :
    (deep n).isUntellable threshold = true := by
  have hKind : (Identity.classify (.scalar (.text "cs/v1/metadata/m/s/t"))).kind = .metadata := by
    decide +kernel
  refine isUntellable_iff.mpr ⟨hKind, hThreshold, _, _, rfl, ofPayload_deepText hRead, ?_⟩
  exact ⟨("A", nested n), List.mem_singleton_self _, isTooDeep_nested hDeep⟩

end Message

namespace Desk

theorem accounts_run_deep [Host] {n : Nat} (hDeep : Host.reportDepth ≤ n)
    (hRead : n + 5 ≤ Json.greatestDepth) (zone : Zone) (path : Path) :
    ((fresh path).run zone [.message (.deep n)]).intake.accounts =
      { Accounts.zero with received := 1, processed := 1, metadataRecords := 1, failed := 1 } := by
  have hThreshold : Threshold.everything.weight ≤ Level.info.weight := by decide
  exact (taken_take zone (fresh path) (.deep n)).accounts_of_untellable
    (Message.isUntellable_deep hDeep hRead hThreshold)

attribute [local instance] Host.usual

/-- One message is enough for the accounts to disagree: what is received once is processed and has
failed. -/
theorem received_ne_processed_add_failed :
    let last := (fresh LogWriter.usualPath).run .universal [.message (.deep 1015)]
    let a := last.intake.accounts
    a.received = 1 ∧ a.processed = 1 ∧ a.failed = 1 ∧ ¬ a.received = a.processed + a.failed := by
  intro last a
  have hAccounts : a = _ :=
    accounts_run_deep (by decide) (by decide) .universal LogWriter.usualPath
  rw [hAccounts]
  decide

end Desk

end TelemetryLog
