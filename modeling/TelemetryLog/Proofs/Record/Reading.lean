import TelemetryLog.Proofs.Json.Range
import TelemetryLog.Proofs.Record.Checked
import TelemetryLog.Proofs.Record.Grammar
import TelemetryLog.Record.Decoding

/-! Reading data records. Each part of a record is read exactly when its value is of the grammar, and
what is read is what the value describes; so a payload gives a record exactly when its value is one.
The numbers of a text are in the range in which each has a nearest binary64. -/

namespace TelemetryLog

open Value

variable {α : Type}

section Fields

variable {members : List (Scalar × Value)} {name : String} {usual a : α}
  {read : Value → Checked α} {p : α → Value → Prop}

theorem requiredField_eq_ok
    (h : ∀ value, field? name members = some value → (read value = .ok a ↔ p a value)) :
    requiredField name read members = .ok a ↔ Has members name (p a) := by
  rw [requiredField, Checked.within_eq_ok, Has]
  cases hField : field? name members with
  | none => simp [Checked.refuse]
  | some value => simpa using h value hField

theorem optionalField_eq_ok
    (h : ∀ value, field? name members = some value → (read value = .ok a ↔ p a value)) :
    optionalField name usual read members = .ok a ↔ StandsFor members name usual p a := by
  rw [optionalField, Checked.within_eq_ok, StandsFor]
  cases hField : field? name members with
  | none => simp [eq_comm]
  | some value => exact h value hField

end Fields

namespace Value

variable {p : α → Value → Prop} {read : Value → Checked α} {value : Value}

theorem toText_eq_ok {s : String} : value.toText = .ok s ↔ IsTextOf s value := by
  unfold toText
  split
  · simp [IsTextOf, Value.text]
  · rename_i hOther
    have hNot : ¬ IsTextOf s value := fun h => hOther s h
    simp [hNot, Checked.refuse]

theorem toOptional_eq_ok {a : Option α} (hNull : ∀ a, ¬ p a (.scalar .null))
    (h : ∀ a, read value = .ok a ↔ p a value) :
    value.toOptional read = .ok a ↔ OrNull p a value := by
  unfold toOptional
  split
  · cases a with
    | none => simp [OrNull]
    | some a => simp [OrNull, hNull]
  · rename_i hOther
    rw [Checked.map_eq_ok]
    cases a with
    | none => simpa [OrNull] using hOther
    | some a => simp [OrNull, h]

theorem toList_eq_ok_iff_lists {as : List α}
    (h : ∀ items, value = .array items → ∀ item ∈ items, ∀ a, read item = .ok a ↔ p a item) :
    value.toList read = .ok as ↔ Lists p as value := by
  rw [toList_eq_ok, Lists]
  refine exists_congr fun items => and_congr_right fun hItems => ?_
  have hSame := h items hItems
  constructor
  · intro hAll
    refine ((List.forall₂_and_left _ _).mpr ⟨hSame, hAll⟩).imp fun item a hItem => ?_
    exact (hItem.1 a).mp hItem.2
  · intro hAll
    refine ((List.forall₂_and_left _ _).mpr ⟨hSame, hAll⟩).imp fun item a hItem => ?_
    exact (hItem.1 a).mpr hItem.2

theorem toNumber_eq_ok {x : Binary64} (h : Json.InRange value) :
    value.toNumber = .ok x ↔ IsNumeralOf x value := by
  cases h with
  | array | object => simp [toNumber, IsNumeralOf, Checked.refuse]
  | @scalar s hScalar =>
    cases s with
    | null | bool | text => simp [toNumber, IsNumeralOf, Checked.refuse]
    | number y => simp [toNumber, IsNumeralOf]
    | int i =>
      have hFinite : (Binary64.ofInt i).IsFinite := by
        refine Binary64.isFinite_ofInt ?_
        have hLeast : Json.leastInteger = -2 ^ 63 := rfl
        have hGreatest : Json.greatestInteger = 2 ^ 64 - 1 := rfl
        obtain ⟨hLow, hHigh⟩ := hScalar
        omega
      cases hInt : Binary64.ofInt i with
      | nan | infinite => simp [hInt, Binary64.IsFinite] at hFinite
      | finite negative m q => simp [toNumber, IsNumeralOf, hInt, eq_comm]

theorem isNumber_iff {value : Value} : value.isNumber = true ↔ IsNumeral value := by
  unfold isNumber
  split <;> simp_all [IsNumeral]

theorem firstNonNumber?_eq_none {items : List Value} :
    firstNonNumber? items = none ↔ ∀ item ∈ items, IsNumeral item := by
  have hFirsts : items.zipIdx.map Prod.fst = items := List.zipIdx_map_fst 0 items
  conv => rhs; rw [← hFirsts]
  rw [firstNonNumber?, List.find?_eq_none, List.forall_mem_map]
  simp [← isNumber_iff]

theorem toNumbers_eq_ok {xs : List Binary64} (h : Json.InRange value) :
    value.toNumbers = .ok xs ↔ Lists IsNumeralOf xs value := by
  cases h with
  | scalar | object => simp [toNumbers, Lists, Checked.refuse]
  | @array items hItems =>
    rw [toNumbers]
    cases hFirst : firstNonNumber? items with
    | none =>
      refine toList_eq_ok_iff_lists fun _ hEq item hItem _ => toNumber_eq_ok (hItems item ?_)
      cases hEq
      exact hItem
    | some first =>
      -- The item is refused before any is read, and there is no number for it to be the nearest of.
      have hNot : ¬ Lists IsNumeralOf xs (.array items) := by
        intro hLists
        obtain ⟨_, ⟨⟩, hAll⟩ := (exists_lists exists_isNumeralOf (.array items)).mp ⟨xs, hLists⟩
        rw [firstNonNumber?_eq_none.mpr hAll] at hFirst
        cases hFirst
      simp [hNot, Checked.refuse]

end Value

/-- The value of a field is the value of a member. -/
theorem mem_of_field? {members : List (Scalar × Value)} {name : String} {value : Value}
    (h : field? name members = some value) : ∃ member ∈ members, member.2 = value := by
  obtain ⟨member, hFound, hValue⟩ := Option.map_eq_some_iff.mp h
  exact ⟨member, List.mem_of_find?_eq_some hFound, hValue⟩

theorem inRange_field? {members : List (Scalar × Value)} (h : Json.InRange (.object members))
    {name : String} {value : Value} (hField : field? name members = some value) :
    Json.InRange value := by
  cases h with
  | object hMembers =>
    obtain ⟨member, hMember, rfl⟩ := mem_of_field? hField
    exact hMembers member hMember

theorem isKeyed_field? {members : List (Scalar × Value)} (h : Json.IsKeyed (.object members))
    {name : String} {value : Value} (hField : field? name members = some value) :
    Json.IsKeyed value := by
  cases h with
  | object _ hValues =>
    obtain ⟨member, hMember, rfl⟩ := mem_of_field? hField
    exact hValues member hMember

theorem inRange_item {items : List Value} (h : Json.InRange (.array items)) {item : Value}
    (hItem : item ∈ items) : Json.InRange item := by
  cases h with
  | array hItems => exact hItems item hItem

section Records

variable {value : Value}

theorem textField_eq_ok {members : List (Scalar × Value)} {name usual s : String} :
    optionalField name usual toText members = .ok s ↔ StandsFor members name usual IsTextOf s :=
  optionalField_eq_ok fun _ _ => toText_eq_ok

theorem textOrNullField_eq_ok {members : List (Scalar × Value)} {name : String}
    {usual s : Option String} :
    optionalField name usual (toOptional toText) members = .ok s ↔
      StandsFor members name usual (OrNull IsTextOf) s :=
  optionalField_eq_ok fun _ _ => toOptional_eq_ok (by simp [IsTextOf, Value.text])
    fun _ => toText_eq_ok

theorem truthField_eq_ok {members : List (Scalar × Value)} {name : String} {usual b : Bool} :
    optionalField name usual toBool members = .ok b ↔
      StandsFor members name usual (ReadBy toBool) b :=
  optionalField_eq_ok fun _ _ => Iff.rfl

theorem integerOrNullField_eq_ok {members : List (Scalar × Value)} {name : String}
    {usual i : Option Int} :
    optionalField name usual (toOptional toInteger) members = .ok i ↔
      StandsFor members name usual (OrNull (ReadBy toInteger)) i :=
  optionalField_eq_ok fun _ _ => toOptional_eq_ok (by simp [ReadBy, toInteger, Checked.refuse])
    fun _ => Iff.rfl

theorem Column.ofValue_eq_ok {column : Column} :
    Column.ofValue value = .ok column ↔ column.Describes value := by
  obtain ⟨name, type, process, settable⟩ := column
  simp only [Column.ofValue, Checked.bind_eq_ok, toMembers_eq_ok, Checked.map_eq_ok, Prod.exists,
    Checked.both_eq_ok, Column.mk.injEq, textField_eq_ok, textOrNullField_eq_ok, truthField_eq_ok]
  constructor
  · rintro ⟨members, rfl, _, _, _, _, ⟨⟨hName, hType⟩, hProcess, hSettable⟩, rfl, rfl, rfl, rfl⟩
    exact ⟨members, rfl, hName, hType, hProcess, hSettable⟩
  · rintro ⟨members, rfl, hName, hType, hProcess, hSettable⟩
    exact ⟨members, rfl, _, _, _, _, ⟨⟨hName, hType⟩, hProcess, hSettable⟩, rfl, rfl, rfl, rfl⟩

theorem Head.ofValue_eq_ok {head : Head} :
    Head.ofValue value = .ok head ↔ head.Describes value := by
  obtain ⟨transaction, signature, columns⟩ := head
  have hFields (members : List (Scalar × Value)) (columns : List Column) :
      requiredField "fields" (toList Column.ofValue) members = .ok columns ↔
        Has members "fields" (Lists Column.Describes columns) :=
    requiredField_eq_ok fun _ _ => toList_eq_ok_iff_lists fun _ _ _ _ _ => Column.ofValue_eq_ok
  simp only [Head.ofValue, Checked.bind_eq_ok, toMembers_eq_ok, Checked.map_eq_ok, Prod.exists,
    Checked.both_eq_ok, Head.mk.injEq, integerOrNullField_eq_ok, hFields]
  constructor
  · rintro ⟨members, rfl, _, _, _, ⟨⟨hTransaction, hSignature⟩, hColumns⟩, rfl, rfl, rfl⟩
    exact ⟨members, rfl, hTransaction, hSignature, hColumns⟩
  · rintro ⟨members, rfl, hTransaction, hSignature, hColumns⟩
    exact ⟨members, rfl, _, _, _, ⟨⟨hTransaction, hSignature⟩, hColumns⟩, rfl, rfl, rfl⟩

theorem Sample.ofValue_eq_ok {sample : Sample} (h : Json.InRange value) :
    Sample.ofValue value = .ok sample ↔ sample.Describes value := by
  obtain ⟨time, values⟩ := sample
  simp only [Sample.ofValue, Checked.bind_eq_ok, toMembers_eq_ok, Checked.map_eq_ok, Prod.exists,
    Checked.both_eq_ok, Sample.mk.injEq]
  constructor
  · rintro ⟨members, rfl, _, _, ⟨hTime, hValues⟩, rfl, rfl⟩
    refine ⟨members, rfl, (requiredField_eq_ok fun _ _ => Iff.rfl).mp hTime, ?_⟩
    exact (requiredField_eq_ok fun _ hField => toNumbers_eq_ok (inRange_field? h hField)).mp hValues
  · rintro ⟨members, rfl, hTime, hValues⟩
    refine ⟨members, rfl, time, values, ⟨?_, ?_⟩, rfl, rfl⟩
    · exact (requiredField_eq_ok fun _ _ => Iff.rfl).mpr hTime
    · exact (requiredField_eq_ok fun _ hField =>
        toNumbers_eq_ok (inRange_field? h hField)).mpr hValues

theorem Batch.samplesOfValue_eq_ok {first : Sample} {others : List Sample}
    (h : Json.InRange value) :
    Batch.samplesOfValue value = .ok (first, others) ↔
      Lists Sample.Describes (first :: others) value := by
  have hList : value.toList Sample.ofValue = .ok (first :: others) ↔
      Lists Sample.Describes (first :: others) value := by
    refine toList_eq_ok_iff_lists ?_
    rintro items rfl item hItem _
    exact Sample.ofValue_eq_ok (inRange_item h hItem)
  rw [← hList, Batch.samplesOfValue, Checked.bind_eq_ok]
  constructor
  · rintro ⟨_ | ⟨first', others'⟩, hRead, hEq⟩
    · cases hEq
    · cases hEq
      exact hRead
  · intro hRead
    exact ⟨_, hRead, rfl⟩

theorem Batch.ofValue_eq_ok {batch : Batch} (h : Json.InRange value) :
    Batch.ofValue value = .ok batch ↔ batch.Describes value := by
  obtain ⟨head, first, others⟩ := batch
  have hData {members : List (Scalar × Value)} (hMembers : value = .object members)
      (first : Sample) (others : List Sample) :
      requiredField "data" samplesOfValue members = .ok (first, others) ↔
        Has members "data" (Lists Sample.Describes (first :: others)) := by
    subst hMembers
    let ListsAll (samples : Sample × List Sample) := Lists Sample.Describes (samples.1 :: samples.2)
    exact requiredField_eq_ok (p := ListsAll)
      fun _ hField => samplesOfValue_eq_ok (inRange_field? h hField)
  simp only [Batch.ofValue, Checked.bind_eq_ok, toMembers_eq_ok, Checked.map_eq_ok, Prod.exists,
    Checked.both_eq_ok, Batch.mk.injEq]
  constructor
  · rintro ⟨members, hMembers, _, _, _, ⟨hHead, hSamples⟩, rfl, rfl, rfl⟩
    exact ⟨members, hMembers, (requiredField_eq_ok fun _ _ => Head.ofValue_eq_ok).mp hHead,
      (hData hMembers _ _).mp hSamples⟩
  · rintro ⟨members, hMembers, hHead, hSamples⟩
    exact ⟨members, hMembers, head, first, others,
      ⟨(requiredField_eq_ok fun _ _ => Head.ofValue_eq_ok).mpr hHead,
        (hData hMembers _ _).mpr hSamples⟩, rfl, rfl, rfl⟩

end Records

variable [Host]

theorem decodeWith_eq_ok {kind : RecordKind} {read : Value → Checked α} {payload : Payload}
    {a : α} :
    decodeWith kind read payload = .ok a ↔
      ∃ members, Json.ofBytes? payload.octets = some (.object members) ∧
        read (.object members) = .ok a := by
  rw [decodeWith]
  cases hRead : Json.ofBytes? payload.octets with
  | none => simp
  | some value =>
    cases value with
    | scalar | array => simp
    | object members =>
      cases hResult : read (.object members) with
      | ok b => simp [hResult]
      | error vs =>
        simp [hResult]
        split <;> simp

theorem decode_data_eq_ok {payload : Payload} {record : Record} :
    Record.decode .data (some payload) = .ok record ↔
      ∃ batch, Batch.ofPayload payload = .ok batch ∧ record = .data batch := by
  simp only [Record.decode, Record.ofPayload]
  cases Batch.ofPayload payload <;> simp [Except.map, Except.mapError, eq_comm]

theorem Batch.ofPayload_eq_ok {payload : Payload} {batch : Batch} :
    Batch.ofPayload payload = .ok batch ↔
      ∃ value, Json.ofBytes? payload.octets = some value ∧ batch.Describes value := by
  rw [Batch.ofPayload, decodeWith_eq_ok]
  constructor
  · rintro ⟨members, hRead, hValue⟩
    exact ⟨_, hRead, (Batch.ofValue_eq_ok (Json.inRange_ofBytes? hRead)).mp hValue⟩
  · rintro ⟨_, hRead, members, rfl, hFields⟩
    exact ⟨members, hRead,
      (Batch.ofValue_eq_ok (Json.inRange_ofBytes? hRead)).mpr ⟨members, rfl, hFields⟩⟩

/-- A data payload gives a record exactly when its value is of the grammar, down to the last sample,
and the record is the one that the value describes. -/
theorem decode_data_grammar (payload : Payload) :
    ((∃ record, Record.decode .data (some payload) = .ok record) ↔
      ∃ value, Json.ofBytes? payload.octets = some value ∧ value.IsBatch) ∧
    ∀ record, Record.decode .data (some payload) = .ok record ↔
      ∃ value batch, Json.ofBytes? payload.octets = some value ∧ batch.Describes value ∧
        record = .data batch := by
  have hDescribes : ∀ record, Record.decode .data (some payload) = .ok record ↔
      ∃ value batch, Json.ofBytes? payload.octets = some value ∧ batch.Describes value ∧
        record = .data batch := by
    intro record
    simp only [decode_data_eq_ok, Batch.ofPayload_eq_ok]
    constructor
    · rintro ⟨batch, ⟨value, hRead, hBatch⟩, hRecord⟩
      exact ⟨value, batch, hRead, hBatch, hRecord⟩
    · rintro ⟨value, batch, hRead, hBatch, hRecord⟩
      exact ⟨batch, ⟨value, hRead, hBatch⟩, hRecord⟩
  refine ⟨?_, hDescribes⟩
  simp only [hDescribes, ← exists_batch]
  constructor
  · rintro ⟨_, value, batch, hRead, hBatch, -⟩
    exact ⟨value, hRead, batch, hBatch⟩
  · rintro ⟨value, hRead, batch, hBatch⟩
    exact ⟨_, value, batch, hRead, hBatch, rfl⟩

end TelemetryLog
