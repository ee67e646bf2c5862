import TelemetryLog.Proofs.Dispatch
import TelemetryLog.Report

/-! Which reports come to their end. There are words for every line of the report of a message,
but for a definition that is nested too deep; so only the report of a metadata record can break off,
and only where the journal would have let the definition through. -/

namespace TelemetryLog

namespace Identity

theorem kind_ofSegments (segments : List (List Char)) (label : Scalar) :
    (ofSegments segments).kind ≠ .unsupported label := by
  unfold ofSegments
  split
  · split
    · rename_i kind hKind
      split
      · rw [kindOfSegment?] at hKind
        split at hKind
        · cases hKind
          simp
        · split at hKind <;> cases hKind
          simp
      · simp [unknown]
    · simp [unknown]
  · simp [unknown]

/-- A topic never has a kind that is not supported. -/
theorem kind_classify (topic : Value) (label : Scalar) :
    (classify topic).kind ≠ .unsupported label := by
  unfold classify
  split
  · exact kind_ofSegments _ label
  · simp [unknown]

end Identity

namespace Outcome

/-- There are no words for the outcome at a threshold: it has a definition that is nested too deep,
and the journal lets the lines of definitions through. -/
def Untellable [Host] (threshold : Threshold) : Outcome → Prop
  | .metadataHandled _ definitions _ =>
    threshold.weight ≤ Level.info.weight ∧
      ∃ definition ∈ definitions, definition.2.isUnreportable = true
  | _ => False

theorem Untellable.eq_metadataHandled [Host] {outcome : Outcome} {threshold : Threshold}
    (h : outcome.Untellable threshold) :
    ∃ identity definitions keys, outcome = .metadataHandled identity definitions keys := by
  cases outcome with
  | metadataHandled identity definitions keys => exact ⟨identity, definitions, keys, rfl⟩
  | _ => exact h.elim

end Outcome

namespace Report

/-- A line breaks a report off if there are no words for it and the journal would let it through. -/
def BreaksOff (threshold : Threshold) (line : ReportLine) : Prop :=
  threshold.weight ≤ line.level.weight ∧ ∃ fault, line.words = .error fault

variable {threshold : Threshold} {identity : Identity}

theorem told_isSome_iff (lines : List ReportLine) :
    (told threshold lines).2.isSome = true ↔ ∃ line ∈ lines, BreaksOff threshold line := by
  induction lines with
  | nil => simp [told]
  | cons line rest ih =>
    simp only [told, List.mem_cons, exists_eq_or_imp, ← ih]
    cases hWords : line.words with
    | ok words => simp [BreaksOff, hWords]
    | error fault =>
      by_cases hWeight : threshold.weight ≤ line.level.weight
      · simp [BreaksOff, hWords, hWeight]
      · simp [BreaksOff, hWeight]

@[simp] theorem not_breaksOff_asLine (entry : Entry) : ¬ BreaksOff threshold entry.asLine := by
  simp [BreaksOff, Entry.asLine]

theorem not_breaksOff_source (h : ∀ label, identity.kind ≠ .unsupported label) :
    ¬ BreaksOff threshold (source identity) := by
  rw [source]
  split
  · exact absurd ‹_› (h _)
  · exact not_breaksOff_asLine _

theorem not_breaksOff_ofRow (names : List String) (row : Row) {line : ReportLine}
    (h : line ∈ ofRow names row) : ¬ BreaksOff threshold line := by
  simp only [ofRow, List.cons_append, List.nil_append, List.mem_cons, List.mem_map] at h
  obtain rfl | rfl | ⟨cell, -, rfl⟩ := h <;> exact not_breaksOff_asLine _

theorem not_breaksOff_written (tablePath writeError : Option String) :
    ¬ BreaksOff threshold (written tablePath writeError) := by
  rw [written]
  split <;> exact not_breaksOff_asLine _

theorem breaksOff_definitionLine_iff [Host] (name : Scalar) (first : Value) :
    BreaksOff threshold (definitionLine name first) ↔
      threshold.weight ≤ Level.info.weight ∧ first.isUnreportable = true := by
  rw [definitionLine]
  split
  · simp [BreaksOff, *]
  · simp [*]

/-- The report of an outcome breaks off exactly when there are no words for the outcome. -/
theorem told_ofOutcome_isSome_iff [Host] {outcome : Outcome}
    (h : ∀ identity, outcome.identity? = some identity →
      ∀ label, identity.kind ≠ .unsupported label) :
    (told threshold (ofOutcome outcome)).2.isSome = true ↔ outcome.Untellable threshold := by
  rw [told_isSome_iff]
  cases outcome with
  | unclassified topic rawPayload => simp [ofOutcome, Outcome.Untellable]
  | dataHandled identity names row tablePath writeError =>
    have hSource := @not_breaksOff_source threshold identity (h identity rfl)
    have hRow := @not_breaksOff_ofRow threshold names row
    have hWritten := @not_breaksOff_written threshold tablePath writeError
    simp only [ofOutcome, Outcome.Untellable, iff_false]
    rintro ⟨line, hLine, hBreaks⟩
    simp only [List.mem_append, List.mem_cons, List.not_mem_nil, or_false] at hLine
    obtain ((rfl | rfl | rfl) | hLine) | rfl := hLine
    · exact not_breaksOff_asLine _ hBreaks
    · exact hSource hBreaks
    · exact not_breaksOff_asLine _ hBreaks
    · exact hRow hLine hBreaks
    · exact hWritten hBreaks
  | metadataHandled identity definitions keys =>
    have hSource := @not_breaksOff_source threshold identity (h identity rfl)
    simp only [ofOutcome, Outcome.Untellable]
    constructor
    · rintro ⟨line, hLine, hBreaks⟩
      simp only [List.mem_append, List.mem_cons, List.not_mem_nil, or_false, List.mem_map] at hLine
      obtain (rfl | rfl | rfl) | ⟨definition, hDefinition, rfl⟩ := hLine
      · exact absurd hBreaks (not_breaksOff_asLine _)
      · exact absurd hBreaks hSource
      · exact absurd hBreaks (not_breaksOff_asLine _)
      · obtain ⟨hWeight, hDeep⟩ := (breaksOff_definitionLine_iff _ _).mp hBreaks
        exact ⟨hWeight, definition, hDefinition, hDeep⟩
    · rintro ⟨hWeight, definition, hDefinition, hDeep⟩
      refine ⟨_, List.mem_append_right _ (List.mem_map_of_mem hDefinition), ?_⟩
      exact (breaksOff_definitionLine_iff _ _).mpr ⟨hWeight, hDeep⟩
  | decodeFailed identity cause rawPayload =>
    have hSource := @not_breaksOff_source threshold identity (h identity rfl)
    simp [ofOutcome, Outcome.Untellable, opening, hSource]

end Report

end TelemetryLog
