import TelemetryLog.Proofs.Record.Content

/-! The reasons of refusals. Whatever is read of a value, there is a result or at least one thing
that is wrong; so a list of violations is empty exactly when there is a result. -/

namespace TelemetryLog

theorem Checked.IsConversion.hasReason {α : Type} {r : Checked α} (h : r.IsConversion) :
    r.HasReason := by
  obtain ⟨a, rfl⟩ | ⟨c, rfl, -⟩ := h
  · exact hasReason_ok a
  · exact hasReason_refuse c

section Fields

variable {α : Type} {name : String} {members : List (Scalar × Value)} {read : Value → Checked α}
  (h : ∀ value, (read value).HasReason)
include h

theorem hasReason_requiredField : (requiredField name read members).HasReason := by
  refine Checked.HasReason.within ?_ _
  cases field? name members with
  | some value => exact h value
  | none => exact Checked.hasReason_refuse _

theorem hasReason_optionalField (usual : α) :
    (optionalField name usual read members).HasReason := by
  refine Checked.HasReason.within ?_ _
  cases field? name members with
  | some value => exact h value
  | none => exact Checked.hasReason_ok _

end Fields

section Reasons

open Checked

variable (value : Value)

theorem Value.hasReason_toText : value.toText.HasReason := by
  unfold toText
  split
  · exact hasReason_ok _
  · exact hasReason_refuse _

theorem Value.hasReason_toNumber : value.toNumber.HasReason := by
  unfold toNumber
  repeat' split
  all_goals first
    | exact hasReason_ok _
    | exact hasReason_refuse _

theorem Value.hasReason_toNumbers : value.toNumbers.HasReason := by
  unfold toNumbers
  repeat' split
  · exact hasReason_refuse _
  · exact hasReason_toList hasReason_toNumber _
  · exact hasReason_refuse _

theorem Column.hasReason_ofValue : (ofValue value).HasReason := by
  cases value with
  | scalar | array => exact hasReason_refuse _
  | object members =>
    have hTextOrNull := Value.hasReason_toOptional Value.hasReason_toText
    have hTruth (value : Value) := (Value.isConversion_toBool value).hasReason
    exact (((hasReason_optionalField Value.hasReason_toText "").both
      (hasReason_optionalField hTextOrNull none)).both
        ((hasReason_optionalField hTextOrNull none).both
          (hasReason_optionalField hTruth false))).map _

theorem Sample.hasReason_ofValue : (ofValue value).HasReason := by
  cases value with
  | scalar | array => exact hasReason_refuse _
  | object members =>
    have hTime (value : Value) := (Value.isConversion_toTime value).hasReason
    exact ((hasReason_requiredField hTime).both
      (hasReason_requiredField Value.hasReason_toNumbers)).map _

theorem Head.hasReason_ofValue : (ofValue value).HasReason := by
  cases value with
  | scalar | array => exact hasReason_refuse _
  | object members =>
    have hInteger (value : Value) := (Value.isConversion_toInteger value).hasReason
    have hIntegerOrNull := Value.hasReason_toOptional hInteger
    exact (((hasReason_optionalField hIntegerOrNull none).both
      (hasReason_optionalField hIntegerOrNull none)).both
        (hasReason_requiredField (Value.hasReason_toList Column.hasReason_ofValue))).map _

theorem Batch.hasReason_samplesOfValue : (samplesOfValue value).HasReason := by
  have hSamples := Value.hasReason_toList Sample.hasReason_ofValue value
  rw [samplesOfValue]
  cases hRead : value.toList Sample.ofValue with
  | error vs =>
    rw [hRead] at hSamples
    exact fun hNil => hSamples (by cases hNil; rfl)
  | ok samples =>
    cases samples with
    | nil => exact hasReason_refuse _
    | cons first others => exact hasReason_ok _

theorem Batch.hasReason_ofValue : (ofValue value).HasReason := by
  cases value with
  | scalar | array => exact hasReason_refuse _
  | object members =>
    exact ((hasReason_requiredField Head.hasReason_ofValue).both
      (hasReason_requiredField hasReason_samplesOfValue)).map _

theorem Definitions.hasReason_listOfValue : (listOfValue value).HasReason := by
  cases value with
  | scalar | object => exact hasReason_refuse _
  | array items => exact hasReason_ok _

theorem Definitions.hasReason_nameOfKey (key : Scalar) : (nameOfKey key).HasReason := by
  unfold nameOfKey
  split
  · exact hasReason_ok _
  · exact (hasReason_refuse _).within _

theorem Definitions.hasReason_entriesOfValue : (entriesOfValue value).HasReason := by
  cases value with
  | scalar | array => exact hasReason_refuse _
  | object members =>
    refine hasReason_all fun r hMember => ?_
    obtain ⟨⟨key, value⟩, -, rfl⟩ := List.mem_map.mp hMember
    exact ((hasReason_nameOfKey key).both (hasReason_listOfValue value)).within _

theorem Definitions.hasReason_ofValue : (ofValue value).HasReason := by
  cases value with
  | scalar | array => exact hasReason_refuse _
  | object members =>
    exact ((hasReason_optionalField (Value.hasReason_toList Value.hasReason_toText) []).both
      (hasReason_requiredField hasReason_entriesOfValue)).map _

theorem Metadata.hasReason_ofValue : (ofValue value).HasReason := by
  cases value with
  | scalar | array => exact hasReason_refuse _
  | object members => exact (hasReason_requiredField Definitions.hasReason_ofValue).map _

theorem Form.hasReason_read (form : Form) : (form.read value).HasReason := by
  cases form with
  | batch => exact Batch.hasReason_ofValue value
  | head => exact Head.hasReason_ofValue value
  | column => exact Column.hasReason_ofValue value
  | sample => exact Sample.hasReason_ofValue value
  | metadata => exact Metadata.hasReason_ofValue value
  | definitions => exact Definitions.hasReason_ofValue value

theorem Content.hasReason_read (content : Content) : (content.read value).HasReason := by
  induction content generalizing value with
  | record form => exact form.hasReason_read value
  | text => exact value.hasReason_toText
  | truth => exact value.isConversion_toBool.hasReason
  | integer => exact value.isConversion_toInteger.hasReason
  | time => exact value.isConversion_toTime.hasReason
  | numbers => exact value.hasReason_toNumbers
  | list => exact Definitions.hasReason_listOfValue value
  | orNull content ih => exact Value.hasReason_toOptional ih value
  | listOf content ih => exact Value.hasReason_toList ih value
  | samples => exact Batch.hasReason_samplesOfValue value
  | entries => exact Definitions.hasReason_entriesOfValue value

end Reasons

end TelemetryLog
