import Mathlib.Logic.Relation
import TelemetryLog.Proofs.Json.Reader
import TelemetryLog.Proofs.Record.Reading

/-! The spelling of keys. `Form.Respelled` says when a value comes from another by one change in the
keys of an object that is read by a form, at whatever depth; the definitions of metadata are read by
none. What is read of the two values is the same, and so is what is said to be wrong with them. -/

namespace TelemetryLog

/-- The names of the fields of a form. -/
def Form.fields : Form → List String
  | .batch => ["head", "data"]
  | .head => ["transaction", "signature", "fields"]
  | .column => ["name", "type", "process", "settable"]
  | .sample => ["time", "vals"]
  | .metadata => ["fields"]
  | .definitions => ["key", "definitions"]

/-- A change in the spelling of the members of an object of which fields with some names are read: a
key is spelled otherwise, a member comes that is no field, or one comes that is a field, but not the
first with its name. -/
inductive Respells (names : List String) : List (Scalar × Value) → List (Scalar × Value) → Prop
  | rename (before after : List (Scalar × Value)) {key key' : String} (value : Value)
      (hFold : foldKey key.toList = foldKey key'.toList) :
      Respells names (before ++ (.text key, value) :: after) (before ++ (.text key', value) :: after)
  | insert (before after : List (Scalar × Value)) {key : Scalar} (value : Value)
      (hKey : ∀ name ∈ names, spells name key = false) :
      Respells names (before ++ after) (before ++ (key, value) :: after)
  | insertAgain (before after : List (Scalar × Value)) {key : Scalar} (value : Value)
      {name : String} (hEarlier : ∃ member ∈ before, spells name member.1 = true)
      (hKey : spells name key = true) :
      Respells names (before ++ after) (before ++ (key, value) :: after)

/-- A field of a form is read by another form. -/
inductive Form.Part : Form → String → Form → Prop
  | head : Part .batch "head" .head
  | definitions : Part .metadata "fields" .definitions

/-- A field of a form is a list, and its items are read by another form. -/
inductive Form.ItemPart : Form → String → Form → Prop
  | sample : ItemPart .batch "data" .sample
  | column : ItemPart .head "fields" .column

/-- One change in the spelling of an object that is read by a form, or of one within it that is read
by the form of its place. -/
inductive Form.Respelled : Form → Value → Value → Prop
  | here {form : Form} {members members' : List (Scalar × Value)}
      (h : Respells form.fields members members') :
      Respelled form (.object members) (.object members')
  | part {form inner : Form} {name : String} (hPart : form.Part name inner)
      (before after : List (Scalar × Value)) {key : Scalar} (hKey : spells name key = true)
      {value value' : Value} (h : Respelled inner value value') :
      Respelled form (.object (before ++ (key, value) :: after))
        (.object (before ++ (key, value') :: after))
  | item {form inner : Form} {name : String} (hPart : form.ItemPart name inner)
      (before after : List (Scalar × Value)) {key : Scalar} (hKey : spells name key = true)
      (front back : List Value) {value value' : Value} (h : Respelled inner value value') :
      Respelled form (.object (before ++ (key, .array (front ++ value :: back)) :: after))
        (.object (before ++ (key, .array (front ++ value' :: back)) :: after))

def Form.Result : Form → Type
  | .batch => Batch
  | .head => Head
  | .column => Column
  | .sample => Sample
  | .metadata => Metadata
  | .definitions => Definitions

def Form.read : (form : Form) → Value → Checked form.Result
  | .batch => Batch.ofValue
  | .head => Head.ofValue
  | .column => Column.ofValue
  | .sample => Sample.ofValue
  | .metadata => Metadata.ofValue
  | .definitions => Definitions.ofValue

section Fields

variable {name other : String} {key : Scalar} {value : Value}
  {before after members members' : List (Scalar × Value)}

theorem field?_append :
    field? name (before ++ after) = (field? name before).or (field? name after) := by
  rw [field?, List.find?_append, Option.map_or]
  rfl

theorem field?_cons :
    field? name ((key, value) :: after) =
      if spells name key then some value else field? name after := by
  rw [field?, List.find?_cons]
  split <;> simp [*, field?]

theorem field?_insert (hKey : spells name key = false) :
    field? name (before ++ (key, value) :: after) = field? name (before ++ after) := by
  simp [field?_append, field?_cons, hKey]

theorem isSome_field? (h : ∃ member ∈ members, spells name member.1 = true) :
    (field? name members).isSome = true := by
  rw [field?, Option.isSome_map, List.find?_isSome]
  exact h

/-- A key spells one name at most. -/
theorem spells_unique (h : spells name key = true) (h' : spells other key = true) :
    name = other := by
  cases key with
  | text s =>
    simp only [spells, decide_eq_true_eq] at h h'
    exact String.toList_injective (h.symm.trans h')
  | _ => cases h

theorem field?_insertAgain (hEarlier : ∃ member ∈ before, spells other member.1 = true)
    (hKey : spells other key = true) :
    field? name (before ++ (key, value) :: after) = field? name (before ++ after) := by
  cases hName : spells name key with
  | false => exact field?_insert hName
  | true =>
    obtain rfl := spells_unique hName hKey
    obtain ⟨first, hFirst⟩ := Option.isSome_iff_exists.mp (isSome_field? hEarlier)
    rw [field?_append, field?_append, hFirst]
    rfl

/-- A change in the spelling leaves every field that is read as it is. -/
theorem Respells.field?_eq {names : List String} (h : Respells names members members')
    (hName : name ∈ names) : field? name members = field? name members' := by
  cases h with
  | rename before after value hFold => simp [field?_append, field?_cons, spells, hFold]
  | insert _ _ _ hKey => exact (field?_insert (hKey name hName)).symm
  | insertAgain _ _ _ hEarlier hKey => exact (field?_insertAgain hEarlier hKey).symm

variable {α : Type} {read : Value → Checked α}

/-- What is read of a field is the same in two objects. -/
def ReadAlike (name : String) (read : Value → Checked α)
    (members members' : List (Scalar × Value)) : Prop :=
  (field? name members).map read = (field? name members').map read

theorem ReadAlike.requiredField (h : ReadAlike name read members members') :
    requiredField name read members = requiredField name read members' := by
  have hRequired (members : List (Scalar × Value)) : TelemetryLog.requiredField name read members =
      .within (.field name) (((field? name members).map read).getD (.refuse .missing)) := by
    rw [TelemetryLog.requiredField]
    cases field? name members <;> rfl
  rw [hRequired, hRequired, h]

theorem ReadAlike.optionalField (h : ReadAlike name read members members') (usual : α) :
    optionalField name usual read members = optionalField name usual read members' := by
  have hOptional (members : List (Scalar × Value)) :
      TelemetryLog.optionalField name usual read members =
        .within (.field name) (((field? name members).map read).getD (.ok usual)) := by
    rw [TelemetryLog.optionalField]
    cases field? name members <;> rfl
  rw [hOptional, hOptional, h]

theorem readAlike_of_respells {names : List String} (h : Respells names members members')
    (hName : name ∈ names) : ReadAlike name read members members' :=
  congrArg (Option.map read) (h.field?_eq hName)

/-- The value of a member makes no difference to a field, if it is none for what is read of the
field that the member is. -/
theorem readAlike_replace {value' : Value} (h : spells name key = true → read value = read value') :
    ReadAlike name read (before ++ (key, value) :: after) (before ++ (key, value') :: after) := by
  rw [ReadAlike, field?_append, field?_append, field?_cons, field?_cons, Option.map_or,
    Option.map_or]
  split
  · simp [h ‹_›]
  · rfl

theorem readAlike_other {value' : Value} (hKey : spells other key = true) (hOther : name ≠ other) :
    ReadAlike name read (before ++ (key, value) :: after) (before ++ (key, value') :: after) :=
  readAlike_replace fun hName => absurd (spells_unique hName hKey) hOther

theorem readAlike_part {value' : Value} (h : read value = read value') :
    ReadAlike name read (before ++ (key, value) :: after) (before ++ (key, value') :: after) :=
  readAlike_replace fun _ => h

end Fields

section Forms

open Value

variable {members members' : List (Scalar × Value)}

theorem Column.ofValue_congr (hName : ReadAlike "name" toText members members')
    (hType : ReadAlike "type" (toOptional toText) members members')
    (hProcess : ReadAlike "process" (toOptional toText) members members')
    (hSettable : ReadAlike "settable" toBool members members') :
    Column.ofValue (.object members) = Column.ofValue (.object members') := by
  simp only [ofValue, toMembers, hName.optionalField, hType.optionalField, hProcess.optionalField,
    hSettable.optionalField, bind, Except.bind]

theorem Sample.ofValue_congr (hTime : ReadAlike "time" toTime members members')
    (hValues : ReadAlike "vals" toNumbers members members') :
    Sample.ofValue (.object members) = Sample.ofValue (.object members') := by
  simp only [ofValue, toMembers, hTime.requiredField, hValues.requiredField, bind, Except.bind]

theorem Head.ofValue_congr
    (hTransaction : ReadAlike "transaction" (toOptional toInteger) members members')
    (hSignature : ReadAlike "signature" (toOptional toInteger) members members')
    (hFields : ReadAlike "fields" (toList Column.ofValue) members members') :
    Head.ofValue (.object members) = Head.ofValue (.object members') := by
  simp only [ofValue, toMembers, hTransaction.optionalField, hSignature.optionalField,
    hFields.requiredField, bind, Except.bind]

theorem Batch.ofValue_congr (hHead : ReadAlike "head" Head.ofValue members members')
    (hData : ReadAlike "data" samplesOfValue members members') :
    Batch.ofValue (.object members) = Batch.ofValue (.object members') := by
  simp only [ofValue, toMembers, hHead.requiredField, hData.requiredField, bind, Except.bind]

theorem Definitions.ofValue_congr (hKeys : ReadAlike "key" (toList toText) members members')
    (hDefinitions : ReadAlike "definitions" entriesOfValue members members') :
    Definitions.ofValue (.object members) = Definitions.ofValue (.object members') := by
  simp only [ofValue, toMembers, hKeys.optionalField, hDefinitions.requiredField, bind, Except.bind]

theorem Metadata.ofValue_congr (hFields : ReadAlike "fields" Definitions.ofValue members members') :
    Metadata.ofValue (.object members) = Metadata.ofValue (.object members') := by
  simp only [ofValue, toMembers, hFields.requiredField, bind, Except.bind]

theorem Form.read_of_respells {form : Form} (h : Respells form.fields members members') :
    form.read (.object members) = form.read (.object members') := by
  have hAlike {α : Type} {name : String} (read : Value → Checked α) (hName : name ∈ form.fields) :
      ReadAlike name read members members' := readAlike_of_respells h hName
  cases form with
  | batch => exact Batch.ofValue_congr (hAlike _ (by decide)) (hAlike _ (by decide))
  | head =>
    exact Head.ofValue_congr (hAlike _ (by decide)) (hAlike _ (by decide)) (hAlike _ (by decide))
  | column =>
    exact Column.ofValue_congr (hAlike _ (by decide)) (hAlike _ (by decide)) (hAlike _ (by decide))
      (hAlike _ (by decide))
  | sample => exact Sample.ofValue_congr (hAlike _ (by decide)) (hAlike _ (by decide))
  | metadata => exact Metadata.ofValue_congr (hAlike _ (by decide))
  | definitions => exact Definitions.ofValue_congr (hAlike _ (by decide)) (hAlike _ (by decide))

theorem Value.toList_replace {α : Type} {read : Value → Checked α} {value value' : Value}
    (h : read value = read value') (front back : List Value) :
    toList read (.array (front ++ value :: back)) =
      toList read (.array (front ++ value' :: back)) := by
  simp only [toList_array, List.map_append, List.map_cons, h]

/-- Respelling leaves what is read, and what is said to be wrong, as it is. -/
theorem Form.Respelled.read_eq {form : Form} {value value' : Value}
    (h : form.Respelled value value') : form.read value = form.read value' := by
  induction h with
  | here h => exact Form.read_of_respells h
  | part hPart before after hKey _ ih =>
    -- The field of the changed member reads the same of it, and the other fields do not see it.
    cases hPart with
    | head => exact Batch.ofValue_congr (readAlike_part ih) (readAlike_other hKey (by decide))
    | definitions => exact Metadata.ofValue_congr (readAlike_part ih)
  | item hPart before after hKey front back _ ih =>
    have hItems := Value.toList_replace ih front back
    cases hPart with
    | sample =>
      refine Batch.ofValue_congr (readAlike_other hKey (by decide)) (readAlike_part ?_)
      exact congrArg (· >>= _) hItems
    | column =>
      exact Head.ofValue_congr (readAlike_other hKey (by decide)) (readAlike_other hKey (by decide))
        (readAlike_part hItems)

/-- Values that differ in their spelling, after any number of changes one way or the other. -/
abbrev Form.SpelledAlike (form : Form) : Value → Value → Prop := Relation.EqvGen form.Respelled

theorem Form.SpelledAlike.read_eq {form : Form} {value value' : Value}
    (h : form.SpelledAlike value value') : form.read value = form.read value' := by
  induction h with
  | rel _ _ h => exact h.read_eq
  | refl => rfl
  | symm _ _ _ ih => exact ih.symm
  | trans _ _ _ _ _ ih ih' => exact ih.trans ih'

end Forms

namespace Definitions

/-- The object that gives entries, with their names and their lists as they are. -/
def verbatim (entries : List (String × List Value)) : Value :=
  .object (entries.map fun (name, items) => (.text name, .array items))

theorem entryOfMember_eq_ok {member : Scalar × Value} {entry : String × List Value} :
    entryOfMember member = .ok entry ↔ member = (.text entry.1, .array entry.2) := by
  obtain ⟨key, value⟩ := member
  obtain ⟨name, items⟩ := entry
  have hName : nameOfKey key = .ok name ↔ key = .text name := by
    cases key <;> simp [nameOfKey, Checked.refuse, Checked.within]
  have hItems : listOfValue value = .ok items ↔ value = .array items := by
    cases value <;> simp [listOfValue, Checked.refuse]
  rw [entryOfMember, Checked.within_eq_ok, Checked.both_eq_ok, hName, hItems, Prod.mk.injEq]

theorem entriesOfValue_eq_ok {value : Value} {entries : List (String × List Value)} :
    entriesOfValue value = .ok entries ↔ value = verbatim entries := by
  cases value with
  | scalar | array => simp [entriesOfValue, verbatim, Checked.refuse]
  | object members =>
    simp only [entriesOfValue, verbatim, Checked.all_eq_ok, List.forall₂_map_left_iff,
      entryOfMember_eq_ok, Value.object.injEq]
    rw [← List.forall₂_eq_eq_eq, List.forall₂_map_right_iff]

end Definitions

/-- The definitions of a metadata record stand in its value as they are, names and all. -/
def Metadata.KeepsDefinitions (metadata : Metadata) : Value → Prop := Value.IsObject fun members =>
  Has members "fields" (Value.IsObject fun fields =>
    Has fields "definitions" (· = Definitions.verbatim metadata.definitions.entries))

theorem Metadata.keepsDefinitions_of_ofValue {value : Value} {metadata : Metadata}
    (h : Metadata.ofValue value = .ok metadata) : metadata.KeepsDefinitions value := by
  obtain ⟨members, hMembers, h⟩ := Checked.bind_eq_ok.mp h
  obtain ⟨definitions, hFields, rfl⟩ := Checked.map_eq_ok.mp h
  obtain ⟨inner, hInner, hDefinitions⟩ :=
    (requiredField_eq_ok (p := Value.ReadBy Definitions.ofValue) fun _ _ => Iff.rfl).mp hFields
  obtain ⟨fields, hObject, hRead⟩ := Checked.bind_eq_ok.mp hDefinitions
  obtain ⟨⟨keys, entries⟩, hBoth, rfl⟩ := Checked.map_eq_ok.mp hRead
  refine ⟨members, Value.toMembers_eq_ok.mp hMembers, inner, hInner, fields,
    Value.toMembers_eq_ok.mp hObject, ?_⟩
  exact (requiredField_eq_ok (p := fun entries value => value = Definitions.verbatim entries)
    fun _ _ => Definitions.entriesOfValue_eq_ok).mp (Checked.both_eq_ok.mp hBoth).2

section Payloads

variable {kind : RecordKind} {payload payload' : Payload}
  {members members' : List (Scalar × Value)}

/-- The form of the records of a kind. -/
def RecordKind.form? : RecordKind → Option Form
  | .data => some .batch
  | .metadata => some .metadata
  | _ => none

/-- A record, or the words for why there is none. -/
def Record.told [Host] (kind : RecordKind) (payload : Payload) : Except String Record :=
  (Record.decode kind (some payload)).mapError DecodeError.message

theorem decodeWith_congr [Host] {α : Type} {read : Value → Checked α}
    (hRead : Json.ofBytes? payload.octets = some (.object members))
    (hRead' : Json.ofBytes? payload'.octets = some (.object members'))
    (h : read (.object members) = read (.object members')) :
    (decodeWith kind read payload).mapError PayloadFault.message =
      (decodeWith kind read payload').mapError PayloadFault.message := by
  simp only [decodeWith, hRead, hRead', h]
  cases read (.object members') with
  | ok a => rfl
  | error vs =>
    dsimp only
    split <;> rfl

theorem told_congr {α : Type} {of : Payload → Except PayloadFault α} {make : α → Record}
    (h : (of payload).mapError PayloadFault.message = (of payload').mapError PayloadFault.message) :
    (Record.ofPayload (fun p => (of p).map make) (some payload)).mapError DecodeError.message =
      (Record.ofPayload (fun p => (of p).map make) (some payload')).mapError
        DecodeError.message := by
  have hTold (p : Payload) :
      (Record.ofPayload (fun p => (of p).map make) (some p)).mapError DecodeError.message =
        ((of p).mapError PayloadFault.message).map make := by
    rw [Record.ofPayload]
    cases of p <;> rfl
  rw [hTold, hTold, h]

theorem decode_metadata_eq_ok [Host] {metadata : Metadata}
    (h : Record.decode kind (some payload) = .ok (.metadata metadata)) :
    Metadata.ofPayload payload = .ok metadata := by
  cases kind with
  | data =>
    obtain ⟨batch, -, hRecord⟩ := decode_data_eq_ok.mp h
    cases hRecord
  | metadata =>
    rw [Record.decode, Record.ofPayload] at h
    cases hRead : Metadata.ofPayload payload with
    | error fault => simp [hRead, Except.map, Except.mapError] at h
    | ok found => simpa [hRead, Except.map, Except.mapError] using h
  | unknown | unsupported => cases h

/-- Payloads whose objects differ in the spelling of keys give the same record, or are refused with
the same words. The definitions of metadata are read by no form: their keys stay as they are. -/
theorem decode_spelledAlike [Host] {form : Form} (hForm : kind.form? = some form)
    (hRead : Json.ofBytes? payload.octets = some (.object members))
    (hRead' : Json.ofBytes? payload'.octets = some (.object members'))
    (h : form.SpelledAlike (.object members) (.object members')) :
    Record.told kind payload = Record.told kind payload' ∧
      ∀ metadata, Record.decode kind (some payload) = .ok (.metadata metadata) →
        metadata.KeepsDefinitions (.object members) := by
  constructor
  · cases kind with
    | data =>
      cases hForm
      exact told_congr (decodeWith_congr hRead hRead' h.read_eq)
    | metadata =>
      cases hForm
      exact told_congr (decodeWith_congr hRead hRead' h.read_eq)
    | unknown | unsupported => cases hForm
  · intro metadata hDecode
    obtain ⟨found, hFound, hValue⟩ := decodeWith_eq_ok.mp (decode_metadata_eq_ok hDecode)
    cases hRead.symm.trans hFound
    exact Metadata.keepsDefinitions_of_ofValue hValue

end Payloads

namespace Payload

open Json

/-- A metadata payload with one field, which has no definitions; the keys of its objects are spelled
as given. -/
def ofSpelling (outer inner : String) : Payload :=
  .text (String.ofList (objectText outer.toList (objectText inner.toList
    (objectText "A".toList (nestedText 0)))))

def membersOfSpelling (outer inner : String) : List (Scalar × Value) :=
  [(.text outer, .object [(.text inner, .object [(.text "A", .array [])])])]

theorem ofBytes?_ofSpelling {outer inner : String} (hOuter : outer.toList.all isPlain = true)
    (hInner : inner.toList.all isPlain = true)
    (hAscii : (outer.toList ++ inner.toList).all Text.Utf8.isAscii = true) :
    Json.ofBytes? (ofSpelling outer inner).octets =
      some (.object (membersOfSpelling outer inner)) := by
  rw [List.all_append, Bool.and_eq_true] at hAscii
  have hInnermost : Reads 2 3 (objectText "A".toList (nestedText 0))
      (.object [(.text "A", .array [])]) := (reads_nested 0).object rfl
  have hReads := (hInnermost.object hInner).object hOuter
  rw [String.ofList_toList, String.ofList_toList] at hReads
  have hText := objectText_ascii hAscii.1 (objectText_ascii hAscii.2
    (@objectText_ascii "A".toList (nestedText 0) rfl rfl))
  rw [ofSpelling, octets, String.toList_ofList]
  refine ofBytes?_eq_some hReads hText (by decide) ?_
  simp only [objectText, List.length_append, List.length_cons]
  omega

end Payload

attribute [local instance] Host.usual

/-- Two ways to spell the keys of the same metadata. -/
theorem decode_spelledAlike_metadata :
    Record.told .metadata (.ofSpelling "fields" "definitions") =
      Record.told .metadata (.ofSpelling "Fields" "DEFINI-TIONS") := by
  have hRead := @Payload.ofBytes?_ofSpelling "fields" "definitions" rfl rfl rfl
  have hRead' := @Payload.ofBytes?_ofSpelling "Fields" "DEFINI-TIONS" rfl rfl rfl
  have hOuter : Form.Respelled .metadata
      (.object (Payload.membersOfSpelling "fields" "definitions"))
      (.object (Payload.membersOfSpelling "Fields" "definitions")) :=
    .here (.rename [] [] _ (by decide +kernel))
  have hInner : Form.Respelled .metadata
      (.object (Payload.membersOfSpelling "Fields" "definitions"))
      (.object (Payload.membersOfSpelling "Fields" "DEFINI-TIONS")) :=
    .part .definitions [] [] (by decide +kernel) (.here (.rename [] [] _ (by decide +kernel)))
  have hAlike := Relation.EqvGen.trans _ _ _ (.rel _ _ hOuter) (.rel _ _ hInner)
  exact (@decode_spelledAlike .metadata _ _ _ _ _ .metadata rfl hRead hRead' hAlike).1

end TelemetryLog
