import TelemetryLog.Proofs.Intake.Independence

/-! What a threshold makes of the journal of a desk. Beside a desk with a threshold stands one at
which everything is let through: messages fare alike at both, and the journal of the first is that
of the second as the threshold filters it, but for the messages that cannot be told of. Their
failure is an error, and it comes about only where the lines of their reports would be let
through. -/

namespace TelemetryLog

namespace Threshold

/-- What a threshold lets through of a journal lacks so many entries of what it lets through of
another one. -/
structure Lacks (threshold : Threshold) (journal whole : List Entry) (missing : Nat) : Prop where
  sublist : (threshold.filter journal).Sublist (threshold.filter whole)
  length : (threshold.filter whole).length = (threshold.filter journal).length + missing

variable {threshold : Threshold} {journal whole : List Entry} {missing : Nat}

theorem filter_append (threshold : Threshold) (first later : List Entry) :
    threshold.filter (first ++ later) = threshold.filter first ++ threshold.filter later :=
  List.filter_append ..

theorem Lacks.of_eq (h : threshold.filter journal = threshold.filter whole) :
    threshold.Lacks journal whole 0 :=
  ⟨h ▸ List.Sublist.refl _, by rw [h, Nat.add_zero]⟩

theorem Lacks.append (h : threshold.Lacks journal whole missing) {journal' whole' : List Entry}
    {missing' : Nat} (h' : threshold.Lacks journal' whole' missing') :
    threshold.Lacks (journal ++ journal') (whole ++ whole') (missing + missing') := by
  constructor
  · rw [filter_append, filter_append]
    exact h.sublist.append h'.sublist
  · rw [filter_append, filter_append, List.length_append, List.length_append, h.length, h'.length]
    omega

/-- What is let through alike before or after adds nothing to what is missing. -/
theorem Lacks.append_alike (h : threshold.Lacks journal whole missing)
    {journal' whole' : List Entry}
    (hAlike : threshold.filter journal' = threshold.filter whole') :
    threshold.Lacks (journal ++ journal') (whole ++ whole') missing :=
  h.append (.of_eq hAlike)

theorem Lacks.append_left (h : threshold.Lacks journal whole missing) (before : List Entry) :
    threshold.Lacks (before ++ journal) (before ++ whole) missing := by
  have hBefore : threshold.Lacks before before 0 := .of_eq rfl
  have hWhole := hBefore.append h
  rwa [Nat.zero_add] at hWhole

theorem Lacks.filter_eq_iff (h : threshold.Lacks journal whole missing) :
    threshold.filter journal = threshold.filter whole ↔ missing = 0 := by
  have hLength := h.length
  constructor
  · intro hSame
    rw [hSame] at hLength
    omega
  · intro hNone
    exact h.sublist.eq_of_length (by omega)

/-- A threshold above the level of all entries of a journal lets none of them through. -/
theorem filter_eq_nil_of_info (hInfo : Level.info.weight < threshold.weight)
    (h : ∀ entry ∈ journal, entry.level = .info) : threshold.filter journal = [] := by
  refine List.filter_eq_nil_iff.mpr fun entry hEntry => ?_
  simp only [admits, h entry hEntry, decide_eq_true_eq]
  omega

theorem filter_everything (journal : List Entry) : everything.filter journal = journal := by
  refine List.filter_eq_self.mpr fun entry _ => ?_
  cases hLevel : entry.level <;> simp [admits, everything, hLevel, Level.weight]

end Threshold

namespace Report

variable {threshold other : Threshold} {lines : List ReportLine}

/-- A report that comes to its end does so at a higher threshold too, and is the same. -/
theorem told_of_le (h : threshold.weight ≤ other.weight) (hNone : (told threshold lines).2 = none) :
    told other lines = told threshold lines := by
  induction lines with
  | nil => rfl
  | cons line rest ih =>
    unfold told at hNone ⊢
    cases hWords : line.words with
    | ok words =>
      simp only [hWords] at hNone ⊢
      rw [ih hNone]
    | error fault =>
      simp only [hWords] at hNone ⊢
      split at hNone
      · cases hNone
      · rw [if_neg (by omega), if_neg (by omega), ih hNone]

/-- Where there are words for all lines but some of information, a report is the same at all
thresholds that let information through. -/
theorem told_of_info (h : threshold.weight ≤ Level.info.weight)
    (hOther : other.weight ≤ Level.info.weight)
    (hLines : ∀ line ∈ lines, ∀ fault, line.words = .error fault → line.level = .info) :
    told other lines = told threshold lines := by
  induction lines with
  | nil => rfl
  | cons line rest ih =>
    obtain ⟨hLine, hRest⟩ := List.forall_mem_cons.mp hLines
    unfold told
    cases hWords : line.words with
    | ok words => simp only [ih hRest]
    | error fault => simp only [hLine fault hWords, if_pos h, if_pos hOther]

theorem level_of_mem_told {level : Level} (hLines : ∀ line ∈ lines, line.level = level)
    {entry : Entry} (hEntry : entry ∈ (told threshold lines).1) : entry.level = level := by
  induction lines with
  | nil => cases hEntry
  | cons line rest ih =>
    obtain ⟨hLine, hRest⟩ := List.forall_mem_cons.mp hLines
    unfold told at hEntry
    split at hEntry
    · obtain rfl | hEntry := List.mem_cons.mp hEntry
      · exact hLine
      · exact ih hRest hEntry
    · split at hEntry
      · cases hEntry
      · exact ih hRest hEntry

theorem level_source (identity : Identity) : (source identity).level = .info := by
  unfold source
  split <;> rfl

theorem level_definitionLine [Host] (name : Scalar) (first : Value) :
    (definitionLine name first).level = .info := by
  unfold definitionLine
  split <;> rfl

theorem level_of_mem_metadata [Host] {identity : Identity} {definitions : List (Scalar × Value)}
    {keys : List String} {line : ReportLine}
    (h : line ∈ ofOutcome (.metadataHandled identity definitions keys)) : line.level = .info := by
  simp only [ofOutcome, List.cons_append, List.nil_append, List.mem_cons, List.mem_map] at h
  obtain rfl | rfl | rfl | ⟨definition, -, rfl⟩ := h
  · rfl
  · exact level_source identity
  · rfl
  · exact level_definitionLine _ _

/-- Only lines of information have no words. -/
theorem level_of_no_words [Host] {outcome : Outcome} {line : ReportLine}
    (h : line ∈ ofOutcome outcome)
    {fault : ReportFault} (hWords : line.words = .error fault) : line.level = .info := by
  cases outcome with
  | metadataHandled identity definitions keys => exact level_of_mem_metadata h
  | dataHandled identity names row tablePath writeError =>
    simp only [ofOutcome, ofRow, List.mem_append, List.mem_cons, List.mem_map, List.not_mem_nil,
      or_false] at h
    obtain ((rfl | rfl | rfl) | (rfl | rfl) | ⟨cell, -, rfl⟩) | rfl := h
    · rfl
    · exact level_source identity
    · rfl
    · rfl
    · rfl
    · rfl
    · unfold written at hWords
      split at hWords <;> cases hWords
  | decodeFailed identity cause rawPayload =>
    simp only [ofOutcome, List.mem_cons, List.not_mem_nil, or_false] at h
    obtain rfl | rfl | rfl | rfl := h
    · rfl
    · exact level_source identity
    · cases hWords
    · cases hWords
  | unclassified topic rawPayload =>
    simp only [ofOutcome, List.mem_cons, List.not_mem_nil, or_false] at h
    obtain rfl | rfl | rfl := h <;> cases hWords

end Report

/-- Whether a threshold lets errors through, but no information, and a message cannot be told of
where all is let through: that failure does not come about at the threshold. -/
def Message.isHushed [Host] (threshold : Threshold) (m : Message) : Bool :=
  Level.info.weight < threshold.weight && threshold.weight ≤ Level.error.weight &&
    m.isUntellable .everything

theorem Intake.handle_of_info [Host] {intake : Intake} {threshold : Threshold}
    (hIntake : intake.threshold.weight ≤ Level.info.weight)
    (h : threshold.weight ≤ Level.info.weight) (zone : Zone) (tree : Tree) (topic : Value)
    (payload : Option Payload) :
    let done := intake.handle zone tree topic payload
    { intake with threshold }.handle zone tree topic payload =
      { done with intake := { done.intake with threshold } } := by
  have hTold : ∀ outcome, Report.told threshold (Report.ofOutcome outcome) =
      Report.told intake.threshold (Report.ofOutcome outcome) := fun outcome =>
    Report.told_of_info hIntake h fun line hLine fault hWords =>
      Report.level_of_no_words hLine hWords
  simp only [handle, hTold]
  split
  · split <;> rfl
  · rfl

theorem Intake.filter_statsEntries {threshold : Threshold}
    (hAbove : Level.info.weight < threshold.weight) (every : Int) (accounts : Accounts) :
    threshold.filter (statsEntries every accounts) = [] := by
  refine Threshold.filter_eq_nil_of_info hAbove fun entry hEntry => ?_
  unfold statsEntries at hEntry
  split at hEntry
  · rw [List.mem_singleton.mp hEntry]
    rfl
  · cases hEntry

theorem Outcome.Untellable.weight_le [Host] {outcome : Outcome} {threshold : Threshold}
    (h : outcome.Untellable threshold) : threshold.weight ≤ Level.info.weight := by
  obtain ⟨identity, definitions, keys, rfl⟩ := h.eq_metadataHandled
  exact h.1

namespace Desk

section Journal

variable [Host] {zone : Zone} {desk : Desk} {m : Message}

theorem journal_of_error {fault : DispatchFault}
    (hResult : (desk.dispatched zone m).result = .error fault) :
    (desk.take zone m).journal =
      (desk.dispatched zone m).journal ++ [Intake.failureEntry fault.message m.topic] := by
  unfold dispatched Message.identity at hResult
  simp only [take, Intake.handle, hResult]
  rfl

theorem journal_of_told {outcome : Outcome}
    (hResult : (desk.dispatched zone m).result = .ok outcome) {report : List Entry}
    (hTold : Report.told desk.intake.threshold (Report.ofOutcome outcome) = (report, none)) :
    ∃ every accounts, (desk.take zone m).journal =
      (desk.dispatched zone m).journal ++ report ++ Intake.statsEntries every accounts := by
  unfold dispatched Message.identity at hResult
  simp only [take, Intake.handle, hResult, hTold]
  exact ⟨_, _, rfl⟩

theorem journal_of_untold {outcome : Outcome}
    (hResult : (desk.dispatched zone m).result = .ok outcome) {report : List Entry}
    {fault : ReportFault}
    (hTold : Report.told desk.intake.threshold (Report.ofOutcome outcome) = (report, some fault)) :
    (desk.take zone m).journal =
      (desk.dispatched zone m).journal ++ report ++
        [Intake.failureEntry fault.message m.topic] := by
  unfold dispatched Message.identity at hResult
  simp only [take, Intake.handle, hResult, hTold]
  rfl

end Journal

/-- The journal of some messages that are taken at a desk. -/
def journalOf [Host] (zone : Zone) (desk : Desk) : List Message → List Entry
  | [] => []
  | m :: rest => (desk.take zone m).journal ++ (desk.after zone (.message m)).journalOf zone rest

/-- A desk with a threshold beside one at which everything is let through. If the threshold lets
information through, the desks differ in nothing else; if not, in their accounts at most. -/
structure Muted (threshold : Threshold) (desk whole : Desk) : Prop where
  dispatcher : desk.intake.dispatcher = whole.intake.dispatcher
  tree : desk.tree = whole.tree
  intake : threshold.weight ≤ Level.info.weight → desk.intake = { whole.intake with threshold }
  threshold : desk.intake.threshold = threshold
  everything : whole.intake.threshold = .everything

namespace Muted

variable {threshold : Threshold} {desk whole : Desk}

theorem accounts (h : Muted threshold desk whole) (hInfo : threshold.weight ≤ Level.info.weight) :
    desk.intake.accounts = whole.intake.accounts := by
  rw [h.intake hInfo]

variable [Host]

theorem dispatched (h : Muted threshold desk whole) (zone : Zone) (m : Message) :
    desk.dispatched zone m = whole.dispatched zone m := by
  rw [Desk.dispatched, Desk.dispatched, h.dispatcher, h.tree]

theorem take_of_info (h : Muted threshold desk whole) (hInfo : threshold.weight ≤ Level.info.weight)
    (zone : Zone) (m : Message) :
    desk.take zone m =
      { whole.take zone m with intake := { (whole.take zone m).intake with threshold } } := by
  have hEverything : whole.intake.threshold.weight ≤ Level.info.weight := by
    rw [h.everything]
    decide
  rw [take, take, h.intake hInfo, h.tree]
  exact Intake.handle_of_info hEverything hInfo zone whole.tree m.topic m.payload

theorem after (h : Muted threshold desk whole) (zone : Zone) (m : Message) :
    Muted threshold (desk.after zone (.message m)) (whole.after zone (.message m)) := by
  obtain ⟨hTree, hDispatcher, -⟩ := take_eq zone desk m
  obtain ⟨hTree', hDispatcher', -⟩ := take_eq zone whole m
  rw [h.dispatched] at hTree hDispatcher
  refine ⟨hDispatcher.trans hDispatcher'.symm, hTree.trans hTree'.symm, fun hInfo => ?_,
    (threshold_after zone desk _).trans h.threshold,
    (threshold_after zone whole _).trans h.everything⟩
  exact congrArg Handled.intake (h.take_of_info hInfo zone m)

/-- Where no information is let through, every report at the desk comes to its end. -/
theorem exists_report (h : Muted threshold desk whole) {zone : Zone} {m : Message}
    (hAbove : Level.info.weight < threshold.weight) {outcome : Outcome}
    (hResult : (desk.dispatched zone m).result = .ok outcome) :
    ∃ report, Report.told threshold (Report.ofOutcome outcome) = (report, none) := by
  have hFault := reportFault_isSome_iff hResult
  rw [h.threshold] at hFault
  cases hTold : Report.told threshold (Report.ofOutcome outcome) with
  | mk report fault =>
    cases fault with
    | none => exact ⟨report, rfl⟩
    | some fault =>
      rw [hTold] at hFault
      exact absurd (hFault.mp rfl).weight_le (Int.not_le.mpr hAbove)

section Above

variable (h : Muted threshold desk whole) {zone : Zone} {m : Message}
  (hAbove : Level.info.weight < threshold.weight) {outcome : Outcome}
  (hResult : (whole.dispatched zone m).result = .ok outcome) {entries : List Entry}

include h hAbove hResult

/-- What the desk notes of a message that has an outcome, as far as it is let through. -/
theorem exists_filter_journal :
    ∃ report, Report.told threshold (Report.ofOutcome outcome) = (report, none) ∧
      threshold.filter (desk.take zone m).journal =
        threshold.filter (whole.dispatched zone m).journal ++ threshold.filter report := by
  have hDispatched := h.dispatched zone m
  have hOwn : (desk.dispatched zone m).result = .ok outcome := hDispatched ▸ hResult
  obtain ⟨report, hReport⟩ := h.exists_report hAbove hOwn
  obtain ⟨every, accounts, hJournal⟩ := journal_of_told hOwn (h.threshold.symm ▸ hReport)
  refine ⟨report, hReport, ?_⟩
  rw [hJournal, hDispatched, Threshold.filter_append, Threshold.filter_append,
    Intake.filter_statsEntries hAbove, List.append_nil]

/-- If there are words for all of the report, the desk notes what the other one does. -/
theorem filter_journal_of_told
    (hTold : Report.told .everything (Report.ofOutcome outcome) = (entries, none)) :
    threshold.filter (desk.take zone m).journal =
      threshold.filter (whole.take zone m).journal := by
  obtain ⟨report, hReport, hOwn⟩ := h.exists_filter_journal hAbove hResult
  obtain ⟨every, accounts, hJournal⟩ := journal_of_told hResult (h.everything.symm ▸ hTold)
  have hSame : report = entries := by
    have hTelling := Report.told_of_le (Int.le_of_lt (Int.lt_trans (by decide) hAbove))
      (congrArg Prod.snd hTold)
    rw [hReport, hTold] at hTelling
    exact congrArg Prod.fst hTelling
  rw [hOwn, hJournal, hSame, Threshold.filter_append, Threshold.filter_append,
    Intake.filter_statsEntries hAbove, List.append_nil]

/-- If there are no words for some of the report, the desk notes what the other one does but for the
failure. -/
theorem filter_journal_of_untold {fault : ReportFault}
    (hTold : Report.told .everything (Report.ofOutcome outcome) = (entries, some fault))
    (hUntellable : m.isUntellable .everything = true) :
    threshold.filter (whole.take zone m).journal =
      threshold.filter (desk.take zone m).journal ++
        threshold.filter [Intake.failureEntry fault.message m.topic] := by
  obtain ⟨report, hReport, hOwn⟩ := h.exists_filter_journal hAbove hResult
  obtain ⟨identity, definitions, keys, rfl⟩ :=
    ((untellable_iff hResult).mpr hUntellable).eq_metadataHandled
  -- The report of a metadata record has lines of information only.
  have hNothing : threshold.filter report = [] :=
    Threshold.filter_eq_nil_of_info hAbove fun entry hEntry =>
      Report.level_of_mem_told (fun line => Report.level_of_mem_metadata) (by rwa [hReport])
  have hEntries : threshold.filter entries = [] :=
    Threshold.filter_eq_nil_of_info hAbove fun entry hEntry =>
      Report.level_of_mem_told (fun line => Report.level_of_mem_metadata) (by rwa [hTold])
  rw [hOwn, journal_of_untold hResult (h.everything.symm ▸ hTold), Threshold.filter_append,
    Threshold.filter_append, hNothing, hEntries]

end Above

theorem lacks_of_above (h : Muted threshold desk whole) (zone : Zone) (m : Message)
    (hAbove : Level.info.weight < threshold.weight) :
    threshold.Lacks (desk.take zone m).journal (whole.take zone m).journal
      (m.isHushed threshold).toNat := by
  cases hResult : (whole.dispatched zone m).result with
  | error fault =>
    have hHeard : m.isHushed threshold = false := by
      simp [Message.isHushed, not_untellable_of_error hResult]
    have hDispatched := h.dispatched zone m
    rw [hHeard, journal_of_error hResult, journal_of_error (hDispatched ▸ hResult), hDispatched]
    exact .of_eq rfl
  | ok outcome =>
    have hFault := (reportFault_isSome_iff hResult).trans (untellable_iff hResult)
    rw [h.everything] at hFault
    cases hTold : Report.told .everything (Report.ofOutcome outcome) with
    | mk entries fault =>
      rw [hTold] at hFault
      cases fault with
      | none =>
        have hTellable : m.isUntellable .everything = false := by simpa using hFault
        have hHeard : m.isHushed threshold = false := by simp [Message.isHushed, hTellable]
        rw [hHeard]
        exact .of_eq (h.filter_journal_of_told hAbove hResult hTold)
      | some fault =>
        have hUntellable : m.isUntellable .everything = true := hFault.mp rfl
        have hWhole := h.filter_journal_of_untold hAbove hResult hTold hUntellable
        refine ⟨hWhole ▸ List.sublist_append_left _ _, ?_⟩
        rw [hWhole, List.length_append, Nat.add_left_cancel_iff]
        by_cases hError : threshold.weight ≤ Level.error.weight <;>
          simp [Threshold.filter, Threshold.admits, Intake.failureEntry, Entry.error,
            Message.isHushed, hUntellable, hAbove, hError]

/-- The journal of a message at a desk is that at the other one as the threshold filters it, but for
the failure of a report that does not come about. -/
theorem lacks (h : Muted threshold desk whole) (zone : Zone) (m : Message) :
    threshold.Lacks (desk.take zone m).journal (whole.take zone m).journal
      (m.isHushed threshold).toNat := by
  by_cases hInfo : threshold.weight ≤ Level.info.weight
  · have hHeard : m.isHushed threshold = false := by
      simp [Message.isHushed, Int.not_lt.mpr hInfo]
    rw [hHeard, h.take_of_info hInfo zone m]
    exact .of_eq rfl
  · exact h.lacks_of_above zone m (Int.not_le.mp hInfo)

/-- Some messages that are taken at a desk and at the other one leave them as alike as they were,
and the journal lacks no more than those failures. -/
theorem run (h : Muted threshold desk whole) (zone : Zone) (messages : List Message) :
    Muted threshold (desk.run zone (messages.map .message))
        (whole.run zone (messages.map .message)) ∧
      threshold.Lacks (desk.journalOf zone messages) (whole.journalOf zone messages)
        (messages.countP (·.isHushed threshold)) := by
  induction messages generalizing desk whole with
  | nil => exact ⟨h, .of_eq rfl⟩
  | cons m rest ih =>
    obtain ⟨hRun, hLacks⟩ := ih (h.after zone m)
    refine ⟨hRun, ?_⟩
    have hCount : (m :: rest).countP (·.isHushed threshold) =
        (m.isHushed threshold).toNat + rest.countP (·.isHushed threshold) := by
      rw [List.countP_cons]
      cases m.isHushed threshold <;> simp [Nat.add_comm]
    rw [hCount]
    exact (h.lacks zone m).append hLacks

end Muted

end Desk

end TelemetryLog
