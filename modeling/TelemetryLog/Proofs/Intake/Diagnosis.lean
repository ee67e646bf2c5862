import TelemetryLog.Proofs.Intake.Balance
import TelemetryLog.Proofs.Report.Block

/-! What the journal of a desk says of a message. The entry of a row that was written is there
exactly if the row has come to the log, and the accounts follow when they are due. A message without
an outcome is noted as one error; only if it cannot be told of does part of a report come before
that. -/

namespace TelemetryLog

open Text

/-- How the entry of the accounts begins. -/
def Intake.accountsWords : String := "[HANDLER] Stats"

namespace Entry

/-- An entry of those that come before a report. It names the part of the program that it comes
from, is no error, and has no accounts. -/
structure IsNote (entry : Entry) : Prop where
  tagged : entry.isTagged = true
  level : entry.level ≠ .error
  noAccounts : entry.startsWith Intake.accountsWords = false

theorem noAccounts_of_not_tagged {entry : Entry} (h : entry.isTagged = false) :
    entry.startsWith Intake.accountsWords = false := by
  rw [isTagged] at h
  rw [startsWith]
  cases hMessage : entry.message.toList with
  | nil => rfl
  | cons first rest =>
    have hFirst : first ≠ '[' := by simpa [hMessage] using h
    simp [Intake.accountsWords, List.isPrefixOf, hFirst.symm]

/-- No other name of a part than that of the handler begins as its accounts do. -/
theorem IsNote.of_start {entry : Entry} (c : Char) (hOther : 'H' ≠ c)
    (hStart : entry.message.toList.take 2 = ['[', c]) (hLevel : entry.level ≠ .error) :
    entry.IsNote := by
  obtain ⟨rest, hChars⟩ := List.take_prefix 2 entry.message.toList
  rw [hStart] at hChars
  exact {
    tagged := by simp [isTagged, ← hChars]
    level := hLevel
    noAccounts := by simp [startsWith, Intake.accountsWords, ← hChars, List.isPrefixOf, hOther] }

end Entry

namespace Outcome

/-- The payload that an outcome keeps because no record was read from it, and the level and the
words that it is told with. -/
def unread? : Outcome → Option (Level × String × String)
  | .decodeFailed _ _ rawPayload => some (.error, "+ Raw Payload: ", rawPayload)
  | .unclassified _ rawPayload => some (.warning, "+ Payload: ", rawPayload)
  | _ => none

end Outcome

theorem RowAppended.not_furnished {path : Path} {names : List String} {row : Row}
    {before after : Tree} {here : Location} (h : RowAppended path names row before after here) :
    ¬ before.Furnished after := by
  intro hFurnished
  have hContent := h.content
  rw [hFurnished.files] at hContent
  cases hBefore : before.content? here with
  | none => simp [hBefore] at hContent
  | some content =>
    rw [hBefore] at hContent
    have hLength := congrArg String.length (Option.some.inj hContent)
    simp [LogWriter.textFor, String.length_append] at hLength

namespace LogWriter

theorem isNote_creating (path : Path) : (creating path).IsNote :=
  .of_start 'C' (by decide) (by simp [creating, Entry.info]) (by simp [creating, Entry.info])

theorem isNote_appended (path : Path) (row : Row) : (appended path row).IsNote :=
  .of_start 'C' (by decide) (by simp [appended, Entry.debug]) (by simp [appended, Entry.debug])

variable {writer : LogWriter} {tree : Tree} {path : Path} {names : List String} {row : Row}
  {entry : Entry}

theorem isNote_of_mem_appendTo {isNew : Bool}
    (h : entry ∈ (writer.appendTo tree isNew path names row).journal) : entry.IsNote := by
  have hCreating : ∀ entry ∈ if isNew then [creating path] else [], entry.IsNote := by
    cases isNew <;> simp [isNote_creating]
  rw [appendTo] at h
  split at h
  · exact hCreating entry h
  · split at h
    · exact hCreating entry h
    · obtain h | h := List.mem_append.mp h
      · exact hCreating entry h
      · rw [List.mem_singleton.mp h]
        exact isNote_appended path row

theorem isNote_of_mem_append [Host] (h : entry ∈ (writer.append tree path names row).journal) :
    entry.IsNote := by
  rw [append] at h
  split at h
  · cases h
  · split at h
    · cases h
    · cases h
    · split at h
      · exact isNote_of_mem_appendTo h
      · split at h
        · cases h
        · exact isNote_of_mem_appendTo h

end LogWriter

namespace Dispatcher

variable [Host] {zone : Zone} {d : Dispatcher} {tree : Tree} {identity : Identity}
  {names : List String} {row : Row} {outcome : Outcome} {entry : Entry}

theorem isNote_of_mem_writeRow (h : entry ∈ (d.writeRow tree identity names row).journal) :
    entry.IsNote := by
  rw [writeRow] at h
  split at h
  · exact LogWriter.isNote_of_mem_append h
  · exact LogWriter.isNote_of_mem_append h
  · exact LogWriter.isNote_of_mem_append h
  · obtain h | h := List.mem_append.mp h
    · exact LogWriter.isNote_of_mem_append h
    · rw [List.mem_singleton.mp h]
      exact .of_start 'D' (by decide) (by simp [Entry.debug]) (by simp [Entry.debug])

theorem isNote_of_mem_readData {payload : Payload}
    (h : entry ∈ (d.readData zone tree identity payload).journal) : entry.IsNote := by
  rw [readData] at h
  split at h
  · cases h
  · rw [List.mem_singleton.mp h]
    exact .of_start 'D' (by decide) (by simp [Entry.debug]) (by simp [Entry.debug])
  · split at h
    · rw [List.mem_singleton.mp h]
      exact .of_start 'D' (by decide) (by simp [Entry.debug]) (by simp [Entry.debug])
    · exact isNote_of_mem_writeRow h

theorem isNote_of_mem_dispatch {topic : Value} {payload : Option Payload}
    (h : entry ∈ (d.dispatch zone tree identity topic payload).journal) : entry.IsNote := by
  unfold dispatch at h
  split at h
  · cases h
  · cases h
  · exact isNote_of_mem_readData h
  · cases h
  · cases h
  · cases h

/-- Why a row is not written is what the writer has to say of it. -/
theorem writeRow_eq_dataHandled (h : (d.writeRow tree identity names row).result = .ok outcome) :
    ∃ writeError, outcome = .dataHandled identity names row (some d.tablePath.text) writeError ∧
      (∀ error, writeError = some error ↔ ∃ fault,
        (d.writer.append tree d.tablePath names row).result = .error fault ∧
          error = fault.message) ∧
      ∀ error, writeError = some error → ∃ s, error = "CSV Write Error: " ++ s := by
  rw [writeRow] at h
  split at h
  · rename_i hResult
    cases h
    exact ⟨none, rfl, by simp [hResult], by simp⟩
  · cases h
  · cases h
  · rename_i fault hNul hDeep hResult
    cases h
    refine ⟨_, rfl, by simp [hResult, eq_comm], ?_⟩
    rintro error ⟨⟩
    cases fault with
    | storage fault path =>
      refine ⟨fault.message ++ (" (path=" ++ (path.text ++ ")")), ?_⟩
      simp only [← String.append_assoc]
      rfl
    | nulInPath => exact absurd rfl hNul
    | tooDeep => exact absurd rfl hDeep

/-- An outcome does justice to its message, which has a payload. -/
theorem exists_answers {topic : Value} {payload : Option Payload}
    (hKind : ∀ label, identity.kind ≠ .unsupported label)
    (h : (d.dispatch zone tree identity topic payload).result = .ok outcome) :
    ∃ told, payload = some told ∧ outcome.Answers zone identity topic told := by
  unfold dispatch at h
  split at h
  · exact absurd ‹_› (hKind _)
  · cases h
  · exact ⟨_, rfl, readData_answers ‹_› topic h⟩
  · cases h
  · exact ⟨_, rfl, readMetadata_answers ‹_› topic h⟩
  · cases h
    exact ⟨_, rfl, .unclassified ‹_›⟩

end Dispatcher

theorem Intake.statsEntries_eq (every : Int) (accounts : Accounts) :
    statsEntries every accounts =
      if every ≠ 0 ∧ every ∣ accounts.received then [.info ("[HANDLER] " ++ accounts.text)]
      else [] := by
  simp only [statsEntries, isDue, Int.dvd_iff_emod_eq_zero, Bool.and_eq_true, decide_eq_true_eq]

theorem Intake.startsWith_accountsWords (accounts : Accounts) :
    (Entry.info ("[HANDLER] " ++ accounts.text)).startsWith accountsWords = true := by
  simp [Entry.startsWith, Entry.info, accountsWords, Accounts.text, List.isPrefixOf]

theorem Report.mem_block_of_writeError [Host] {outcome : Outcome} {error : String}
    (h : outcome.writeError? = some error) : .error ("+ " ++ error) ∈ block outcome := by
  cases outcome with
  | dataHandled identity names row tablePath writeError =>
    obtain rfl : writeError = some error := h
    exact List.mem_append_right _ (List.mem_singleton_self _)
  | _ => cases h

namespace Desk

section

variable [Host]

/-- What comes of appending the row of a message, if it is a data message and has one. -/
def Appends (zone : Zone) (desk : Desk) (m : Message) (result : Except AppendFault Unit) : Prop :=
  m.isData = true ∧ ∃ payload batch time, m.payload = some payload ∧
    Batch.ofPayload payload = .ok batch ∧ batch.first.time.toLocal zone = .ok time ∧
    let d := desk.intake.dispatcher
    (d.writer.append desk.tree d.tablePath batch.shownNames
      (batch.rowAt time (d.counter.value + 1))).result = result

variable {zone : Zone} {desk : Desk} {m : Message} {outcome : Outcome}

theorem exists_answers (h : (desk.dispatched zone m).result = .ok outcome) :
    ∃ payload, m.payload = some payload ∧ outcome.Answers zone m.identity m.topic payload :=
  Dispatcher.exists_answers (Identity.kind_classify m.topic) h

/-- The write error of an outcome is that of appending the row of its message. -/
theorem writeError_eq_iff (h : (desk.dispatched zone m).result = .ok outcome) :
    (∀ error, outcome.writeError? = some error ↔
      ∃ fault, desk.Appends zone m (.error fault) ∧ error = fault.message) ∧
      outcome.GivesReasons := by
  obtain ⟨payload, hPayload, hAnswers⟩ := exists_answers h
  have hOther (hNone : ¬ (m.isData = true ∧ payload.GivesRow zone)) (fault : AppendFault) :
      ¬ desk.Appends zone m (.error fault) := by
    rintro ⟨hData, other, batch, time, hOther, hBatch, hTime, -⟩
    obtain rfl : payload = other := Option.some.inj (hPayload.symm.trans hOther)
    exact hNone ⟨hData, batch, time, hBatch, hTime⟩
  cases hAnswers with
  | unclassified hKind =>
    exact ⟨by simp [Outcome.writeError?, hOther (by simp [Message.isData, hKind])], trivial⟩
  | metadataHandled hKind =>
    exact ⟨by simp [Outcome.writeError?, hOther (by simp [Message.isData, hKind])], hKind⟩
  | noData cause hKind hNone =>
    refine ⟨by simp [Outcome.writeError?, hOther (by simp [hNone])], .inl hKind,
      "Data): " ++ cause, ?_⟩
    rw [← String.append_assoc]
    rfl
  | noMetadata cause hKind =>
    refine ⟨by simp [Outcome.writeError?, hOther (by simp [Message.isData, hKind])], .inr hKind,
      "Metadata): " ++ cause, ?_⟩
    rw [← String.append_assoc]
    rfl
  | dataHandled hKind hRow =>
    obtain ⟨batch, time, hBatch, hTime⟩ := hRow
    rw [dispatched, hPayload, Dispatcher.dispatch_eq_writeRow m.topic hKind hBatch hTime] at h
    obtain ⟨writeError, hOutcome, hError, hReason⟩ := Dispatcher.writeRow_eq_dataHandled h
    cases hOutcome
    refine ⟨fun error => (hError error).trans (exists_congr fun fault => and_congr_left' ?_),
      hKind, hReason⟩
    constructor
    · intro hResult
      exact ⟨decide_eq_true hKind, payload, batch, time, hPayload, hBatch, hTime, hResult⟩
    · rintro ⟨-, other, batch', time', hOther, hBatch', hTime', hResult⟩
      obtain rfl : payload = other := Option.some.inj (hPayload.symm.trans hOther)
      obtain rfl : batch = batch' := Except.ok.inj (hBatch.symm.trans hBatch')
      obtain rfl : time = time' := Except.ok.inj (hTime.symm.trans hTime')
      exact hResult

theorem isNote_of_mem_dispatched {entry : Entry} (h : entry ∈ (desk.dispatched zone m).journal) :
    entry.IsNote := Dispatcher.isNote_of_mem_dispatch h

/-- A row is said to be written exactly if one has come to the log. -/
theorem written?_isSome_iff (zone : Zone) (desk : Desk) (m : Message) :
    (desk.take zone m).written?.isSome = true ↔ ∃ names row here,
      RowAppended desk.intake.dispatcher.tablePath names row desk.tree (desk.take zone m).tree
        here := by
  have hAppends := appendsItsRow_take zone desk m
  rw [Handled.AppendsItsRow] at hAppends
  cases hWritten : (desk.take zone m).written? with
  | none =>
    rw [hWritten] at hAppends
    simp only [Option.isSome_none, Bool.false_eq_true, false_iff]
    rintro ⟨names, row, here, hRow⟩
    exact hRow.not_furnished hAppends
  | some written =>
    rw [hWritten] at hAppends
    obtain ⟨here, hRow⟩ := hAppends
    exact ⟨fun _ => ⟨_, _, here, hRow⟩, fun _ => rfl⟩

theorem Taken.statsEvery {after : Tree} {intake : Intake} {outcome : Option Outcome}
    (h : Taken desk m after intake outcome) : intake.statsEvery = desk.intake.statsEvery := by
  cases h <;> rfl

theorem statsEvery_after (zone : Zone) (desk : Desk) (event : Event) :
    (desk.after zone event).intake.statsEvery = desk.intake.statsEvery := by
  cases event with
  | message m => exact (taken_take zone desk m).statsEvery
  | reset | change => rfl

theorem statsEvery_run (zone : Zone) (desk : Desk) (events : List Event) :
    (desk.run zone events).intake.statsEvery = desk.intake.statsEvery := by
  induction events generalizing desk with
  | nil => rfl
  | cons event rest ih => exact (ih _).trans (statsEvery_after zone desk event)

/-- What the journal says of a message that has an outcome, and what it may be relied on for. -/
structure Told (zone : Zone) (every : Int) (desk : Desk) (m : Message) (outcome : Outcome) :
    Prop where
  /-- The block comes once, after notes about the dispatch. The accounts come after it if the number
  of messages received is a multiple of one that is not zero. -/
  journal :
    let accounts := (desk.take zone m).intake.accounts
    (desk.take zone m).journal = (desk.dispatched zone m).journal ++ Report.block outcome ++
      if every ≠ 0 ∧ every ∣ accounts.received then [.info ("[HANDLER] " ++ accounts.text)] else []
  notes : ∀ entry ∈ (desk.dispatched zone m).journal, entry.IsNote
  plain : ∀ entry ∈ Report.block outcome, entry.isTagged = false
  accountsTold : (∃ entry ∈ (desk.take zone m).journal,
      entry.startsWith Intake.accountsWords = true) ↔
    every ≠ 0 ∧ every ∣ (desk.take zone m).intake.accounts.received
  /-- The accounts have this message in them. -/
  accounts : (desk.take zone m).intake.accounts = desk.intake.accounts.receive.record outcome
  written : (∃ entry ∈ Report.block outcome, entry.startsWith Report.writtenWords = true) ↔
    ∃ names row here, RowAppended desk.intake.dispatcher.tablePath names row desk.tree
      (desk.take zone m).tree here
  unwritten : (∃ entry ∈ Report.block outcome,
      entry.level = .error ∧ entry.startsWith Report.unwrittenWords = true) ↔
    ∃ fault, desk.Appends zone m (.error fault)
  fault : ∀ fault, desk.Appends zone m (.error fault) →
    .error ("+ " ++ fault.message) ∈ Report.block outcome
  unread : ∀ level words raw, outcome.unread? = some (level, words, raw) →
    ∃ payload, m.payload = some payload ∧ raw = payload.display ∧
      ⟨level, words ++ payload.display⟩ ∈ Report.block outcome

/-- What the journal says of a message that has no outcome. -/
structure Untold (zone : Zone) (desk : Desk) (m : Message) (reason : String)
    (report : List Entry) : Prop where
  journal : (desk.take zone m).journal =
    (desk.dispatched zone m).journal ++ report ++ [Intake.failureEntry reason m.topic]
  notes : ∀ entry ∈ (desk.dispatched zone m).journal, entry.IsNote
  /-- The failure is the only error. -/
  errors : (desk.take zone m).journal.filter (·.level = .error) =
    [Intake.failureEntry reason m.topic]
  noAccounts : ∀ entry ∈ (desk.take zone m).journal, entry.startsWith Intake.accountsWords = false
  /-- Nothing is reported of a message unless it cannot be told of. -/
  nothing : m.isUntellable desk.intake.threshold = false → report = []
  /-- What is reported of a message that cannot be told of is the opening of the block, with the
  definitions before the first one that is too deep. -/
  part : m.isUntellable desk.intake.threshold = true →
    ∃ definitions keys, (desk.dispatched zone m).result =
        .ok (.metadataHandled m.identity definitions keys) ∧
      report = Report.metadataEntries m.identity
        (definitions.takeWhile fun d => !d.2.isUnreportable)

theorem take_of_told {report : List Entry} (hResult : (desk.dispatched zone m).result = .ok outcome)
    (hTold : Report.told desk.intake.threshold (Report.ofOutcome outcome) = (report, none)) :
    let accounts := desk.intake.accounts.receive.record outcome
    (desk.take zone m).intake.accounts = accounts ∧
      (desk.take zone m).journal = (desk.dispatched zone m).journal ++ report ++
        Intake.statsEntries desk.intake.statsEvery accounts := by
  unfold dispatched Message.identity at hResult
  simp only [take, Intake.handle, hResult, hTold]
  exact ⟨trivial, rfl⟩

/-- The report of a message with an outcome comes to its end. -/
theorem exists_report (h : (desk.take zone m).outcome = some outcome) :
    ∃ report, Report.told desk.intake.threshold (Report.ofOutcome outcome) = (report, none) := by
  have hResult := result_of_outcome h
  have hFault := (reportFault_isSome_iff hResult).trans (untellable_iff hResult)
  cases hTold : Report.told desk.intake.threshold (Report.ofOutcome outcome) with
  | mk report fault =>
    cases fault with
    | none => exact ⟨report, rfl⟩
    | some fault =>
      rw [(take_eq zone desk m).2.2, if_pos (hFault.mp (by rw [hTold]; rfl))] at h
      cases h

theorem told_take {every : Int} (hEvery : desk.intake.statsEvery = every)
    (h : (desk.take zone m).outcome = some outcome) : Told zone every desk m outcome := by
  have hResult := result_of_outcome h
  obtain ⟨hError, hReasons⟩ := writeError_eq_iff hResult
  obtain ⟨report, hReport⟩ := exists_report h
  obtain rfl := Report.told_eq_block hReasons hReport
  obtain ⟨hAccounts, hJournal⟩ := take_of_told hResult hReport
  have hWritten : (desk.take zone m).written? = outcome.written? := by
    rw [Handled.written?, h]
    rfl
  exact {
    journal := by rw [hJournal, hAccounts, hEvery, Intake.statsEntries_eq]
    notes := fun entry => isNote_of_mem_dispatched
    plain := fun entry => Report.not_isTagged_of_mem_block
    accountsTold := by
      rw [hJournal, hAccounts, hEvery, Intake.statsEntries_eq]
      constructor
      · rintro ⟨entry, hEntry, hWords⟩
        obtain (hNote | hBlock) | hStats := by simpa only [List.mem_append] using hEntry
        · simp [(isNote_of_mem_dispatched hNote).noAccounts] at hWords
        · have hPlain := Report.not_isTagged_of_mem_block hBlock
          simp [Entry.noAccounts_of_not_tagged hPlain] at hWords
        · by_contra hDue
          rw [if_neg hDue] at hStats
          cases hStats
      · intro hDue
        rw [if_pos hDue]
        exact ⟨_, List.mem_append_right _ (List.mem_singleton_self _),
          Intake.startsWith_accountsWords _⟩
    accounts := hAccounts
    written := by
      rw [Report.exists_written_iff hReasons, ← hWritten, written?_isSome_iff]
    unwritten := by
      rw [Report.exists_unwritten_iff hReasons, Option.isSome_iff_exists]
      simp [hError]
    fault := fun fault hFault =>
      Report.mem_block_of_writeError ((hError _).mpr ⟨fault, hFault, rfl⟩)
    unread := by
      obtain ⟨payload, hPayload, hAnswers⟩ := exists_answers hResult
      intro level words raw hUnread
      refine ⟨payload, hPayload, ?_⟩
      cases hAnswers <;> cases hUnread <;>
        exact ⟨rfl, by simp [Report.block, Entry.error, Entry.warning]⟩ }

theorem fate_dispatched (zone : Zone) (desk : Desk) (m : Message) :
    desk.intake.dispatcher.Fate desk.tree m.identity (desk.dispatched zone m).tree
      (desk.dispatched zone m).dispatcher (desk.dispatched zone m).result :=
  Dispatcher.fate_dispatch zone desk.intake.dispatcher desk.tree m.identity m.topic m.payload

/-- What a journal of this form says of a message that has no outcome, whatever the reason. -/
theorem untold_of_journal {reason : String} {report : List Entry}
    (hJournal : (desk.take zone m).journal =
      (desk.dispatched zone m).journal ++ report ++ [Intake.failureEntry reason m.topic])
    (hDetails : ∀ entry ∈ report, Report.IsDetail entry)
    (hNothing : m.isUntellable desk.intake.threshold = false → report = [])
    (hPart : m.isUntellable desk.intake.threshold = true →
      ∃ definitions keys, (desk.dispatched zone m).result =
          .ok (.metadataHandled m.identity definitions keys) ∧
        report =
          Report.metadataEntries m.identity (definitions.takeWhile fun d => !d.2.isUnreportable)) :
    Untold zone desk m reason report where
  journal := hJournal
  notes := fun entry => isNote_of_mem_dispatched
  errors := by
    have hNotes : (desk.dispatched zone m).journal.filter (·.level = .error) = [] :=
      List.filter_eq_nil_iff.mpr fun entry hEntry => by
        simpa using (isNote_of_mem_dispatched hEntry).level
    have hReport : report.filter (·.level = .error) = [] :=
      List.filter_eq_nil_iff.mpr fun entry hEntry => by simp [(hDetails entry hEntry).level]
    rw [hJournal, List.filter_append, List.filter_append, hNotes, hReport]
    rfl
  noAccounts := by
    intro entry hEntry
    rw [hJournal] at hEntry
    obtain (hNote | hDetail) | hFailure := by simpa only [List.mem_append] using hEntry
    · exact (isNote_of_mem_dispatched hNote).noAccounts
    · exact Entry.noAccounts_of_not_tagged (hDetails entry hDetail).not_isTagged
    · rw [List.mem_singleton.mp hFailure]
      simp [Intake.failureEntry, Entry.startsWith, Entry.error, Intake.accountsWords,
        List.isPrefixOf]
  nothing := hNothing
  part := hPart

theorem untold_of_untellable {definitions : List (Scalar × Value)} {keys : List String}
    (hUntellable : m.isUntellable desk.intake.threshold = true)
    (hResult : (desk.dispatched zone m).result =
      .ok (.metadataHandled m.identity definitions keys)) :
    Untold zone desk m ReportFault.tooDeep.message
      (Report.metadataEntries m.identity (definitions.takeWhile fun d => !d.2.isUnreportable)) := by
  obtain ⟨hWeight, definition, hDefinition, hDeep⟩ := (untellable_iff hResult).mpr hUntellable
  have hTold := Report.told_metadataHandled desk.intake.threshold
    (Identity.kind_classify m.topic) definitions keys
  rw [if_pos ⟨hWeight, definition, hDefinition, by simp [hDeep]⟩] at hTold
  exact untold_of_journal (journal_of_untold hResult hTold)
    (fun entry => Report.isDetail_of_mem_metadataEntries) (by simp [hUntellable])
    (fun _ => ⟨definitions, keys, hResult, rfl⟩)

theorem untold_take (h : (desk.take zone m).outcome = none) :
    ∃ reason report, Untold zone desk m reason report := by
  cases hResult : (desk.dispatched zone m).result with
  | error fault =>
    have hTold : m.isUntellable desk.intake.threshold = false := not_untellable_of_error hResult
    refine ⟨fault.message, [], untold_of_journal ?_ (by simp) (fun _ => rfl) (by simp [hTold])⟩
    rw [journal_of_error hResult, List.append_nil]
  | ok outcome =>
    have hUntellable : m.isUntellable desk.intake.threshold = true := by
      rw [(take_eq zone desk m).2.2, hResult] at h
      by_contra hTold
      rw [if_neg hTold] at h
      cases h
    obtain ⟨identity, definitions, keys, rfl⟩ :=
      ((untellable_iff hResult).mpr hUntellable).eq_metadataHandled
    have hFate := fate_dispatched zone desk m
    rw [hResult] at hFate
    obtain ⟨-, rfl, -⟩ := hFate.of_metadataHandled
    exact ⟨_, _, untold_of_untellable hUntellable hResult⟩

/-- The journal after any run at a new desk, however often the accounts are due. A message that has
an outcome is told of by one block, which follows from the outcome: it says that a row was written
exactly if one has come to the log, has an error of writing exactly if a row could not be appended,
and keeps all of a payload that was not read; and the accounts come after it, with the message in
them, exactly if they are due. A message without an outcome is noted as one error, without accounts
and without any part of a block, unless it cannot be told of. -/
theorem journal_agrees (zone : Zone) (d : Dispatcher) (every : Int) (threshold : Threshold)
    (tree : Tree) (events : List Event) (m : Message) :
    let desk := Desk.run zone ⟨.new d every threshold, tree⟩ events
    (∀ outcome, (desk.take zone m).outcome = some outcome → Told zone every desk m outcome) ∧
      ((desk.take zone m).outcome = none → ∃ reason report, Untold zone desk m reason report) := by
  intro desk
  have hEvery : desk.intake.statsEvery = every := statsEvery_run zone _ events
  exact ⟨fun outcome => told_take hEvery, untold_take⟩

/-- A message that cannot be told of has no outcome, but a block is opened for it. -/
theorem journal_deep {n : Nat} (hDeep : Host.reportDepth ≤ n)
    (hRead : n + 5 ≤ Json.greatestDepth) (zone : Zone) (path : Path) :
    let done := (fresh path).take zone (.deep n)
    done.outcome = none ∧
      done.journal = [.info "--- NEW RECORD PARSED ---",
        .info "+ Topic Data: [Metadata] Model: m, Serial: s, Table: t",
        .info "+ JSON Metadata Parsed Successfully:",
        Intake.failureEntry ReportFault.tooDeep.message
          (.scalar (.text "cs/v1/metadata/m/s/t"))] := by
  intro done
  have hThreshold : Threshold.everything.weight ≤ Level.info.weight := by decide
  have hUntellable : (Message.deep n).isUntellable (fresh path).intake.threshold = true :=
    Message.isUntellable_deep hDeep hRead hThreshold
  have hIdentity : (Message.deep n).identity = ⟨"m", "s", "t", .metadata⟩ := by
    show Identity.classify (.scalar (.text "cs/v1/metadata/m/s/t")) = _
    decide +kernel
  have hPayload : (Message.deep n).payload =
      some (.bytes (Text.Utf8.encode (Message.deepText n))) := rfl
  have hDispatched : (fresh path).dispatched zone (.deep n) =
      ⟨.empty, (fresh path).intake.dispatcher, [], .ok (.metadataHandled (Message.deep n).identity
        [(.text "A", Json.nested n)] [])⟩ := by
    rw [dispatched, hPayload]
    simp only [Dispatcher.dispatch, hIdentity, Dispatcher.readMetadata,
      Message.ofPayload_deepText hRead]
    rfl
  have hUntold := untold_of_untellable hUntellable (congrArg Dispatched.result hDispatched)
  have hTooDeep : (Json.nested n).isUnreportable = true := Json.isTooDeep_nested hDeep
  constructor
  · rw [(take_eq zone (fresh path) (.deep n)).2.2, if_pos hUntellable]
  · rw [hUntold.journal, hDispatched, hIdentity, List.takeWhile_cons_of_neg (by simp [hTooDeep])]
    rfl

end

attribute [local instance] Host.usual

/-- One message is enough for a block to be opened without an outcome. -/
theorem opens_block_without_outcome :
    let done := (fresh LogWriter.usualPath).take .universal (.deep 1015)
    done.outcome = none ∧ ¬ ∀ entry ∈ done.journal, entry.isTagged = true := by
  obtain ⟨hOutcome, hJournal⟩ :=
    @journal_deep _ 1015 (by decide) (by decide) .universal LogWriter.usualPath
  refine ⟨hOutcome, fun hTagged => ?_⟩
  have hOpening := hTagged (.info "--- NEW RECORD PARSED ---") (by rw [hJournal]; simp)
  simp [Entry.isTagged, Entry.info] at hOpening

end Desk

end TelemetryLog
