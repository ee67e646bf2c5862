import TelemetryLog.Proofs.Record.Checked
import TelemetryLog.Record.Decoding

/-! Payloads that cannot be told of. There are words for everything that can be wrong with a
record, but for an item that is no number among the values of a sample: it is quoted, and there are
no words for one that is nested too deep. So it hangs on the samples of a data payload alone whether
a refusal can be told, and every metadata payload that is refused can be told of. -/

namespace TelemetryLog

variable [Host]

namespace Value

variable {α : Type} {read : Value → Checked α}

/-- Whether the first item of a list that is no number is nested too deep. -/
def hasDeepItem : Value → Bool
  | .array items => (firstNonNumber? items).any (·.1.isTooDeep Host.complaintDepth)
  | _ => false

def isDeepSample : Value → Bool
  | .object members => (field? "vals" members).any hasDeepItem
  | _ => false

def hasDeepSample : Value → Bool
  | .array items => items.any isDeepSample
  | _ => false

/-- Whether a value would be a data record with a sample that cannot be told of. -/
def isDeepBatch : Value → Bool
  | .object members => (field? "data" members).any hasDeepSample
  | _ => false

@[simp] theorem isUntold_toMembers (form : Form) (value : Value) :
    (value.toMembers form).isUntold = false := by
  unfold toMembers
  split <;> simp [Complaint.isTooDeep]

@[simp] theorem isUntold_toText (value : Value) : value.toText.isUntold = false := by
  unfold toText
  split <;> simp [Complaint.isTooDeep]

@[simp] theorem isUntold_truthOfInteger (i : Int) : (truthOfInteger i).isUntold = false := by
  unfold truthOfInteger
  repeat' split
  all_goals simp [Complaint.isTooDeep]

@[simp] theorem isUntold_toBool (value : Value) : value.toBool.isUntold = false := by
  unfold toBool
  repeat' split
  all_goals simp [Complaint.isTooDeep]

@[simp] theorem isUntold_toInteger (value : Value) : value.toInteger.isUntold = false := by
  unfold toInteger
  split
  · rfl
  · rfl
  · unfold integerOfNumber
    repeat' split
    all_goals simp [Complaint.isTooDeep]
  · unfold integerOfText
    split <;> simp [Complaint.isTooDeep]
  · simp [Complaint.isTooDeep]

@[simp] theorem isUntold_timeOf (result : Except TimeFault Stamp) :
    (timeOf result).isUntold = false := by
  cases result <;> simp [timeOf, Complaint.isTooDeep]

@[simp] theorem isUntold_toTime (value : Value) : value.toTime.isUntold = false := by
  unfold toTime
  split
  · unfold timeOfInteger
    split <;> simp [Complaint.isTooDeep]
  · simp
  · simp
  · simp [Complaint.isTooDeep]

@[simp] theorem isUntold_toNumber (value : Value) : value.toNumber.isUntold = false := by
  unfold toNumber
  repeat' split
  all_goals simp [Complaint.isTooDeep]

@[simp] theorem isUntold_toNumbers (value : Value) :
    value.toNumbers.isUntold = value.hasDeepItem := by
  cases value with
  | scalar | object => simp [toNumbers, hasDeepItem, Complaint.isTooDeep]
  | array items =>
    rw [toNumbers, hasDeepItem]
    cases firstNonNumber? items with
    | none => simp [isUntold_toList_array]
    | some first => simp [Complaint.isTooDeep]

@[simp] theorem isUntold_toOptional (value : Value) (h : ∀ value, (read value).isUntold = false) :
    (value.toOptional read).isUntold = false := by
  unfold toOptional
  split <;> simp [h]

@[simp] theorem isUntold_toList (value : Value) (h : ∀ value, (read value).isUntold = false) :
    (value.toList read).isUntold = false := by
  cases value with
  | scalar | object => simp [toList, Complaint.isTooDeep]
  | array items => simp [isUntold_toList_array, h]

end Value

section Fields

variable {α : Type} {name : String} {usual : α} {read : Value → Checked α}
  {members : List (Scalar × Value)}

@[simp] theorem isUntold_requiredField :
    (requiredField name read members).isUntold =
      (field? name members).any fun value => (read value).isUntold := by
  rw [requiredField, Checked.isUntold_within]
  cases field? name members <;> simp [Complaint.isTooDeep]

@[simp] theorem isUntold_optionalField :
    (optionalField name usual read members).isUntold =
      (field? name members).any fun value => (read value).isUntold := by
  rw [optionalField, Checked.isUntold_within]
  cases field? name members <;> simp

end Fields

@[simp] theorem Column.isUntold_ofValue (value : Value) :
    (Column.ofValue value).isUntold = false := by
  cases value with
  | scalar | array => rfl
  | object members =>
    show Checked.isUntold (Except.map _ _) = false
    simp

@[simp] theorem Head.isUntold_ofValue (value : Value) : (Head.ofValue value).isUntold = false := by
  cases value with
  | scalar | array => rfl
  | object members =>
    show Checked.isUntold (Except.map _ _) = false
    simp

@[simp] theorem Sample.isUntold_ofValue (value : Value) :
    (Sample.ofValue value).isUntold = value.isDeepSample := by
  cases value with
  | scalar | array => rfl
  | object members =>
    show Checked.isUntold (Except.map _ _) = _
    simp [Value.isDeepSample]

namespace Batch

@[simp] theorem isUntold_samplesOfValue (value : Value) :
    (samplesOfValue value).isUntold = value.hasDeepSample := by
  have hList : (value.toList Sample.ofValue).isUntold = value.hasDeepSample := by
    cases value with
    | scalar | object => rfl
    | array items => simp [Value.isUntold_toList_array, Value.hasDeepSample]
  rw [← hList, samplesOfValue]
  cases value.toList Sample.ofValue with
  | error vs => rfl
  | ok samples => cases samples <;> rfl

theorem isUntold_ofValue (value : Value) : (ofValue value).isUntold = value.isDeepBatch := by
  cases value with
  | scalar | array => rfl
  | object members =>
    show Checked.isUntold (Except.map _ _) = _
    simp [Value.isDeepBatch]

end Batch

namespace Definitions

@[simp] theorem isUntold_listOfValue (value : Value) : (listOfValue value).isUntold = false := by
  unfold listOfValue
  split <;> simp [Complaint.isTooDeep]

@[simp] theorem isUntold_nameOfKey (key : Scalar) : (nameOfKey key).isUntold = false := by
  unfold nameOfKey
  split <;> simp [Complaint.isTooDeep]

@[simp] theorem isUntold_entriesOfValue (value : Value) :
    (entriesOfValue value).isUntold = false := by
  unfold entriesOfValue
  split <;> simp [entryOfMember, Complaint.isTooDeep]

@[simp] theorem isUntold_ofValue (value : Value) : (ofValue value).isUntold = false := by
  cases value with
  | scalar | array => rfl
  | object members =>
    show Checked.isUntold (Except.map _ _) = false
    simp

end Definitions

theorem Metadata.isUntold_ofValue (value : Value) : (Metadata.ofValue value).isUntold = false := by
  cases value with
  | scalar | array => rfl
  | object members =>
    show Checked.isUntold (Except.map _ _) = false
    simp

section Payloads

variable {α : Type} {kind : RecordKind} {read : Value → Checked α} {payload : Payload}

theorem decodeWith_eq_tooDeep :
    decodeWith kind read payload = .error .tooDeep ↔
      ∃ members, Json.ofBytes? payload.octets = some (.object members) ∧
        (read (.object members)).isUntold = true := by
  rw [decodeWith]
  cases Json.ofBytes? payload.octets with
  | none => simp
  | some value =>
    cases value with
    | scalar | array => simp
    | object members =>
      cases hResult : read (.object members) with
      | ok a => simp [hResult]
      | error vs =>
        simp only [hResult, Checked.isUntold]
        split <;> simp [*]

/-- Whether a payload has a sample that cannot be told of. -/
def Payload.hasDeepSample (payload : Payload) : Bool :=
  (Json.ofBytes? payload.octets).any Value.isDeepBatch

theorem Batch.ofPayload_eq_tooDeep :
    Batch.ofPayload payload = .error .tooDeep ↔ payload.hasDeepSample = true := by
  rw [Batch.ofPayload, decodeWith_eq_tooDeep, Payload.hasDeepSample]
  cases Json.ofBytes? payload.octets with
  | none => simp
  | some value => cases value <;> simp [Batch.isUntold_ofValue, Value.isDeepBatch]

theorem Metadata.ofPayload_ne_tooDeep : Metadata.ofPayload payload ≠ .error .tooDeep := by
  rw [Metadata.ofPayload, Ne, decodeWith_eq_tooDeep]
  simp [Metadata.isUntold_ofValue]

/-- A refusal names the kind that was asked for, and keeps the payload. -/
theorem decodeWith_eq_refused {fault : DecodeFault}
    (h : decodeWith kind read payload = .error (.refused fault)) :
    fault.kind = kind ∧ fault.payload = payload := by
  rw [decodeWith] at h
  split at h
  · cases h
    exact ⟨rfl, rfl⟩
  · split at h
    · cases h
    · split at h
      · cases h
      · cases h
        exact ⟨rfl, rfl⟩
  · cases h
    exact ⟨rfl, rfl⟩

end Payloads

end TelemetryLog
