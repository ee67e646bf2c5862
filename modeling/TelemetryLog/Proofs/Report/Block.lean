import TelemetryLog.Proofs.Intake.Truncation

/-! The block of a report: the entries that an outcome comes to, said for each kind of outcome. A
report that comes to its end is the block of its outcome, at whatever threshold; one that breaks off
has the entries of a metadata record up to the first definition for which there are no words. -/

namespace TelemetryLog

open Text

namespace Entry

/-- Whether an entry begins with the name of a part of the program in brackets, as all entries do
but those of reports. -/
def isTagged (entry : Entry) : Bool := entry.message.toList.head? = some '['

def startsWith (text : String) (entry : Entry) : Bool :=
  text.toList.isPrefixOf entry.message.toList

theorem asLine_injective {a b : Entry} (h : a.asLine = b.asLine) : a = b := by
  obtain ⟨level, message⟩ := a
  obtain ⟨level', message'⟩ := b
  simpa [asLine] using h

end Entry

namespace Outcome

/-- An outcome of the kind of its message, whose reasons say what has failed. -/
def GivesReasons : Outcome → Prop
  | .unclassified _ _ => True
  | .dataHandled identity _ _ _ writeError =>
    identity.kind = .data ∧ ∀ error, writeError = some error → ∃ s, error = "CSV Write Error: " ++ s
  | .metadataHandled identity _ _ => identity.kind = .metadata
  | .decodeFailed identity cause _ =>
    (identity.kind = .data ∨ identity.kind = .metadata) ∧ ∃ s, cause = "JSON Parse Error (" ++ s

/-- Why the row of an outcome could not be written. -/
def writeError? : Outcome → Option String
  | .dataHandled _ _ _ _ writeError => writeError
  | _ => none

end Outcome

namespace Report

def definitionEntry (name : Scalar) (first : Value) : Entry :=
  .info ("  > Field: " ++ String.ofList name.plain ++
    " (Type: " ++ String.ofList first.plain ++ ")")

/-- The entries of a metadata record with definitions for all of which there are words. -/
def metadataEntries (identity : Identity) (definitions : List (Scalar × Value)) : List Entry :=
  [.info "--- NEW RECORD PARSED ---", .info ("+ Topic Data: " ++ identity.text),
    .info "+ JSON Metadata Parsed Successfully:"] ++
    definitions.map fun (name, first) => definitionEntry name first

def writtenWords : String := "+ Data successfully written"

def unwrittenWords : String := "+ CSV Write Error"

/-- The entry that tells whether a row was written. -/
def lastEntry (tablePath : Option String) : Option String → Entry
  | none => .info (writtenWords ++ " to '" ++ tablePath.getD "None" ++ "'")
  | some error => .error ("+ " ++ error)

/-- The entries that an outcome comes to. A definition for which there are no words is left out. -/
def block [Host] : Outcome → List Entry
  | .dataHandled identity names row tablePath writeError =>
    rowEntries identity names row ++ [lastEntry tablePath writeError]
  | .metadataHandled identity definitions _ =>
    metadataEntries identity (definitions.filter fun definition => !definition.2.isUnreportable)
  | .decodeFailed identity cause rawPayload =>
    [.info "--- NEW RECORD PARSED ---", .info ("+ Topic Data: " ++ identity.text),
      .error ("+ " ++ cause), .error ("+ Raw Payload: " ++ rawPayload)]
  | .unclassified topic rawPayload =>
    [.warning "--- Unknown Message Received ---",
      .warning ("+ Topic:   " ++ String.ofList topic.plain), .warning ("+ Payload: " ++ rawPayload)]

variable {threshold : Threshold} {identity : Identity}

theorem told_append_asLine (entries : List Entry) (lines : List ReportLine) :
    told threshold (entries.map Entry.asLine ++ lines) =
      (entries ++ (told threshold lines).1, (told threshold lines).2) := by
  induction entries with
  | nil => rfl
  | cons entry rest ih => simp only [List.map_cons, List.cons_append, told, Entry.asLine, ih]

theorem source_eq (h : ∀ label, identity.kind ≠ .unsupported label) :
    source identity = (Entry.info ("+ Topic Data: " ++ identity.text)).asLine := by
  unfold source
  split
  · exact absurd ‹_› (h _)
  · rfl

theorem definitionLine_of_words [Host] {name : Scalar} {first : Value}
    (h : first.isUnreportable = false) :
    definitionLine name first = (definitionEntry name first).asLine := by
  rw [definitionLine, if_neg (by simp [h])]
  rfl

theorem definitionLine_of_tooDeep [Host] {name : Scalar} {first : Value}
    (h : first.isUnreportable = true) :
    definitionLine name first = ⟨.info, .error .tooDeep⟩ := by
  rw [definitionLine, if_pos h]

/-- The lines of definitions are told but for those without words, or as far as the first of these
if the journal would let it through. -/
theorem told_definitions [Host] (threshold : Threshold) (definitions : List (Scalar × Value)) :
    let isTold (definition : Scalar × Value) : Bool := !definition.2.isUnreportable
    let entries (told : List (Scalar × Value)) : List Entry :=
      told.map fun (name, first) => definitionEntry name first
    told threshold (definitions.map fun (name, first) => definitionLine name first) =
      if threshold.weight ≤ Level.info.weight ∧
        ∃ definition ∈ definitions, isTold definition = false
      then (entries (definitions.takeWhile isTold), some .tooDeep)
      else (entries (definitions.filter isTold), none) := by
  intro isTold entries
  induction definitions with
  | nil => simp [told, entries]
  | cons definition rest ih =>
    obtain ⟨name, first⟩ := definition
    cases hDeep : first.isUnreportable with
    | false =>
      have hTold : isTold (name, first) = true := by simp [isTold, hDeep]
      simp only [List.map_cons, definitionLine_of_words hDeep, told, Entry.asLine, ih,
        List.exists_mem_cons_iff, hTold, Bool.true_eq_false, false_or, List.takeWhile_cons,
        List.filter_cons, if_true]
      split <;> rfl
    | true =>
      have hUntold : isTold (name, first) = false := by simp [isTold, hDeep]
      simp only [List.map_cons, definitionLine_of_tooDeep hDeep, told, ih,
        List.exists_mem_cons_iff, hUntold, true_or, and_true, List.takeWhile_cons,
        List.filter_cons, Bool.false_eq_true, if_false]
      split
      · rfl
      · rename_i hWeight
        rw [if_neg fun h => hWeight h.1]

/-- The report of a metadata record, as far as it is told. -/
theorem told_metadataHandled [Host] (threshold : Threshold)
    (hKind : ∀ label, identity.kind ≠ .unsupported label) (definitions : List (Scalar × Value))
    (keys : List String) :
    told threshold (ofOutcome (.metadataHandled identity definitions keys)) =
      if threshold.weight ≤ Level.info.weight ∧
        ∃ definition ∈ definitions, (!definition.2.isUnreportable) = false
      then (metadataEntries identity (definitions.takeWhile fun d => !d.2.isUnreportable),
        some .tooDeep)
      else (block (.metadataHandled identity definitions keys), none) := by
  have hLines : [opening, source identity, parsed "Metadata"] =
      [Entry.info "--- NEW RECORD PARSED ---", Entry.info ("+ Topic Data: " ++ identity.text),
        Entry.info "+ JSON Metadata Parsed Successfully:"].map Entry.asLine := by
    rw [source_eq hKind]
    rfl
  rw [ofOutcome, hLines, told_append_asLine, told_definitions]
  split <;> rfl

/-- An entry about the record of a message, rather than about what became of it. -/
inductive IsDetail : Entry → Prop
  | opening : IsDetail (.info "--- NEW RECORD PARSED ---")
  | source (s : String) : IsDetail (.info ("+ Topic Data: " ++ s))
  | parsed (s : String) : IsDetail (.info ("+ JSON " ++ s))
  | item (s : String) : IsDetail (.info ("  > " ++ s))

theorem written_eq {tablePath writeError : Option String} (h : writeError ≠ some "") :
    written tablePath writeError = (lastEntry tablePath writeError).asLine := by
  cases writeError with
  | none => rfl
  | some error =>
    have hSome : error ≠ "" := fun hEmpty => h (congrArg some hEmpty)
    simp [written, lastEntry, Option.filter, hSome]

/-- A report that comes to its end is the block of its outcome. -/
theorem told_eq_block [Host] {outcome : Outcome} {entries : List Entry}
    (hReasons : outcome.GivesReasons)
    (h : told threshold (ofOutcome outcome) = (entries, none)) : entries = block outcome := by
  cases outcome with
  | unclassified topic rawPayload => exact (congrArg Prod.fst h).symm
  | dataHandled identity names row tablePath writeError =>
    obtain ⟨hKind, hError⟩ := hReasons
    have hSome : writeError ≠ some "" := by
      intro hEmpty
      obtain ⟨s, hMessage⟩ := hError "" hEmpty
      simpa using congrArg String.toList hMessage
    obtain ⟨last, hLast, hTold⟩ := told_dataHandled threshold hKind names row tablePath writeError
    rw [written_eq hSome] at hLast
    rw [h] at hTold
    rw [block, Entry.asLine_injective hLast]
    exact congrArg Prod.fst hTold
  | metadataHandled identity definitions keys =>
    have hKind : ∀ label, identity.kind ≠ .unsupported label := by
      intro label hLabel
      cases hLabel.symm.trans hReasons
    rw [told_metadataHandled threshold hKind] at h
    split at h
    · cases h
    · exact (congrArg Prod.fst h).symm
  | decodeFailed identity cause rawPayload =>
    have hKind : ∀ label, identity.kind ≠ .unsupported label := by
      intro label hLabel
      obtain ⟨hData | hMetadata, -⟩ := hReasons
      · cases hLabel.symm.trans hData
      · cases hLabel.symm.trans hMetadata
    rw [ofOutcome, source_eq hKind] at h
    exact (congrArg Prod.fst h).symm

section Details

variable {entry : Entry}

theorem IsDetail.not_isTagged (h : IsDetail entry) : entry.isTagged = false := by
  cases h <;> simp [Entry.isTagged, Entry.info]

theorem IsDetail.not_written (h : IsDetail entry) : entry.startsWith writtenWords = false := by
  cases h <;> simp [Entry.startsWith, Entry.info, writtenWords, List.isPrefixOf]

theorem IsDetail.level (h : IsDetail entry) : entry.level = .info := by
  cases h <;> rfl

theorem isDetail_of_mem_rowEntries {names : List String} {row : Row}
    (h : entry ∈ rowEntries identity names row) : IsDetail entry := by
  simp only [rowEntries, valueEntries_eq, List.cons_append, List.nil_append, List.mem_cons,
    List.mem_map] at h
  obtain rfl | rfl | rfl | rfl | rfl | ⟨⟨name, value⟩, -, rfl⟩ := h
  · exact .opening
  · exact .source _
  · exact .parsed "Data Parsed Successfully:"
  · rw [show "  > RecordNo: " = "  > " ++ "RecordNo: " from rfl, String.append_assoc]
    exact .item _
  · rw [show "  > Timestamp: " = "  > " ++ "Timestamp: " from rfl, String.append_assoc]
    exact .item _
  · simp only [valueEntry, String.append_assoc]
    exact .item _

theorem isDetail_of_mem_metadataEntries {definitions : List (Scalar × Value)}
    (h : entry ∈ metadataEntries identity definitions) : IsDetail entry := by
  simp only [metadataEntries, List.cons_append, List.nil_append, List.mem_cons, List.mem_map] at h
  obtain rfl | rfl | rfl | ⟨⟨name, first⟩, -, rfl⟩ := h
  · exact .opening
  · exact .source _
  · exact .parsed "Metadata Parsed Successfully:"
  · simp only [definitionEntry]
    rw [show "  > Field: " = "  > " ++ "Field: " from rfl]
    simp only [String.append_assoc]
    exact .item _

end Details

/-- No entry of a block is tagged. -/
theorem not_isTagged_of_mem_block [Host] {outcome : Outcome} {entry : Entry}
    (h : entry ∈ block outcome) : entry.isTagged = false := by
  cases outcome with
  | unclassified topic rawPayload =>
    simp only [block, List.mem_cons, List.not_mem_nil, or_false] at h
    obtain rfl | rfl | rfl := h <;> simp [Entry.isTagged, Entry.warning]
  | dataHandled identity names row tablePath writeError =>
    simp only [block, List.mem_append, List.mem_singleton] at h
    obtain hDetail | rfl := h
    · exact (isDetail_of_mem_rowEntries hDetail).not_isTagged
    · cases writeError <;> simp [Entry.isTagged, lastEntry, writtenWords, Entry.info, Entry.error]
  | metadataHandled identity definitions keys =>
    exact (isDetail_of_mem_metadataEntries h).not_isTagged
  | decodeFailed identity cause rawPayload =>
    simp only [block, List.mem_cons, List.not_mem_nil, or_false] at h
    obtain rfl | rfl | rfl | rfl := h <;> simp [Entry.isTagged, Entry.info, Entry.error]

/-- A block says that a row was written exactly if its outcome has put one into the log. -/
theorem exists_written_iff [Host] {outcome : Outcome} (hReasons : outcome.GivesReasons) :
    (∃ entry ∈ block outcome, entry.startsWith writtenWords = true) ↔
      outcome.written?.isSome = true := by
  constructor
  · rintro ⟨entry, hEntry, hWritten⟩
    cases outcome with
    | unclassified topic rawPayload =>
      simp only [block, List.mem_cons, List.not_mem_nil, or_false] at hEntry
      obtain rfl | rfl | rfl := hEntry <;>
        simp [Entry.startsWith, Entry.warning, writtenWords, List.isPrefixOf] at hWritten
    | dataHandled identity names row tablePath writeError =>
      simp only [block, List.mem_append, List.mem_singleton] at hEntry
      obtain hDetail | rfl := hEntry
      · simp [(isDetail_of_mem_rowEntries hDetail).not_written] at hWritten
      · cases writeError with
        | none => rfl
        | some error =>
          obtain ⟨s, rfl⟩ := hReasons.2 error rfl
          simp [Entry.startsWith, Entry.error, lastEntry, writtenWords, List.isPrefixOf] at hWritten
    | metadataHandled identity definitions keys =>
      simp [(isDetail_of_mem_metadataEntries hEntry).not_written] at hWritten
    | decodeFailed identity cause rawPayload =>
      obtain ⟨s, rfl⟩ := hReasons.2
      simp only [block, List.mem_cons, List.not_mem_nil, or_false] at hEntry
      obtain rfl | rfl | rfl | rfl := hEntry <;>
        simp [Entry.startsWith, Entry.info, Entry.error, writtenWords, List.isPrefixOf] at hWritten
  · intro hSome
    cases outcome with
    | dataHandled identity names row tablePath writeError =>
      cases writeError with
      | none =>
        refine ⟨lastEntry tablePath none, List.mem_append_right _ (List.mem_singleton_self _), ?_⟩
        simp [Entry.startsWith, lastEntry, Entry.info, writtenWords, List.isPrefixOf]
      | some error => cases hSome
    | _ => cases hSome

/-- A block has a write error at the level of errors exactly if its outcome has one. -/
theorem exists_unwritten_iff [Host] {outcome : Outcome} (hReasons : outcome.GivesReasons) :
    (∃ entry ∈ block outcome, entry.level = .error ∧ entry.startsWith unwrittenWords = true) ↔
      outcome.writeError?.isSome = true := by
  constructor
  · rintro ⟨entry, hEntry, hLevel, hUnwritten⟩
    cases outcome with
    | unclassified topic rawPayload =>
      simp only [block, List.mem_cons, List.not_mem_nil, or_false] at hEntry
      obtain rfl | rfl | rfl := hEntry <;> cases hLevel
    | dataHandled identity names row tablePath writeError =>
      simp only [block, List.mem_append, List.mem_singleton] at hEntry
      obtain hDetail | rfl := hEntry
      · cases (isDetail_of_mem_rowEntries hDetail).level.symm.trans hLevel
      · cases writeError with
        | none => cases hLevel
        | some error => rfl
    | metadataHandled identity definitions keys =>
      cases (isDetail_of_mem_metadataEntries hEntry).level.symm.trans hLevel
    | decodeFailed identity cause rawPayload =>
      obtain ⟨s, rfl⟩ := hReasons.2
      simp only [block, List.mem_cons, List.not_mem_nil, or_false] at hEntry
      obtain rfl | rfl | rfl | rfl := hEntry <;>
        simp [Entry.startsWith, Entry.info, Entry.error, unwrittenWords, List.isPrefixOf]
          at hUnwritten
  · intro hSome
    cases outcome with
    | dataHandled identity names row tablePath writeError =>
      cases writeError with
      | none => cases hSome
      | some error =>
        obtain ⟨s, rfl⟩ := hReasons.2 error rfl
        refine ⟨lastEntry tablePath _, List.mem_append_right _ (List.mem_singleton_self _), rfl, ?_⟩
        simp [Entry.startsWith, lastEntry, Entry.error, unwrittenWords, List.isPrefixOf]
    | _ => cases hSome

end Report

end TelemetryLog
