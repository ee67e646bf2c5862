import Mathlib.Data.List.Induction
import Mathlib.Data.List.Nodup
import TelemetryLog.Proofs.Json.Written
import TelemetryLog.Proofs.Record.Spelling

/-! Keys that come again. A field may be spelled by several members of an object, and the same key
may come several times. The first spelling of a field is the one that counts, but where its key comes
again, the later value does. So what is read of a record is what is read of its written value when
the fields of each object are settled by that rule; the rule that the first member wins gives the
same as long as no key comes twice in an object. -/

namespace TelemetryLog

/-- A rule for which member of an object, as it is written, gives a field its value. -/
abbrev MemberRule := String → List (Scalar × Value) → Option Value

/-- The first member whose key spells a name. -/
def first? (name : String) (members : List (Scalar × Value)) : Option (Scalar × Value) :=
  members.find? (spells name ·.1)

/-- The value of the last member with a key. -/
def lastOf? (key : Scalar) (members : List (Scalar × Value)) : Option Value :=
  (members.reverse.find? (key = ·.1)).map (·.2)

/-- The value of a field where its first spelling counts with the last value for that key. -/
def lastOfFirst? : MemberRule := fun name members =>
  (first? name members).bind fun first => lastOf? first.1 members

section Members

variable {name : String} {key other : Scalar} {value : Value} {members : List (Scalar × Value)}

theorem eq_text_of_spells (h : spells name key = true) : ∃ s, key = .text s := by
  cases key with
  | text s => exact ⟨s, rfl⟩
  | _ => cases h

theorem field?_eq_first? : field? name members = (first? name members).map (·.2) := rfl

theorem first?_cons {member : Scalar × Value} :
    first? name (member :: members) =
      if spells name member.1 then some member else first? name members := by
  rw [first?, List.find?_cons]
  split <;> simp [*, first?]

theorem spells_of_first? {first : Scalar × Value} (h : first? name members = some first) :
    spells name first.1 = true := by
  have hFound := List.find?_some h
  exact hFound

/-- The first member whose key spells a name, once a member has been set. -/
theorem first?_setMember :
    first? name (setMember key value members) =
      match first? name members with
      | some first => some (first.1, if key = first.1 then value else first.2)
      | none => if spells name key then some (key, value) else none := by
  induction members with
  | nil => exact first?_cons
  | cons member rest ih =>
    obtain ⟨other, old⟩ := member
    rw [setMember, first?_cons]
    cases hOther : spells name other with
    | true =>
      obtain ⟨s, rfl⟩ := eq_text_of_spells hOther
      split <;> rename_i hSame <;> rw [sameKey_text_iff] at hSame <;>
        simp [first?_cons, hOther, hSame]
    | false =>
      split
      · rename_i hSame
        -- The key that comes again is no spelling of the name either.
        have hKey : spells name key = false := by
          rw [← Bool.not_eq_true]
          intro hKey
          obtain ⟨s, rfl⟩ := eq_text_of_spells hKey
          rw [text_sameKey_iff.mp hSame, hKey] at hOther
          cases hOther
        simp only [first?_cons, hOther, Bool.false_eq_true, if_false]
        cases hFirst : first? name rest with
        | none => simp [hKey]
        | some first =>
          have hNe : key ≠ first.1 := by
            rintro rfl
            rw [spells_of_first? hFirst] at hKey
            cases hKey
          simp [hNe]
      · simp only [first?_cons, hOther, Bool.false_eq_true, if_false, ih]

theorem lastOf?_append_one :
    lastOf? key (members ++ [(other, value)]) =
      if key = other then some value else lastOf? key members := by
  rw [lastOf?, List.reverse_append, List.reverse_singleton, List.singleton_append, List.find?_cons]
  split <;> simp_all [lastOf?]

theorem isSome_lastOf? {member : Scalar × Value} (h : member ∈ members) :
    (lastOf? member.1 members).isSome = true := by
  rw [lastOf?, Option.isSome_map, List.find?_isSome]
  exact ⟨member, List.mem_reverse.mpr h, by simp⟩

/-- The first member whose key spells a name, once all members have been set one after another. -/
theorem first?_setMembers :
    first? name (members.foldl (fun done (key, value) => setMember key value done) []) =
      (first? name members).bind fun first => (lastOf? first.1 members).map (first.1, ·) := by
  induction members using List.reverseRecOn with
  | nil => rfl
  | append_singleton members member ih =>
    obtain ⟨key, value⟩ := member
    have hFirst : first? name (members ++ [(key, value)]) =
        (first? name members).or (if spells name key then some (key, value) else none) := by
      rw [first?, List.find?_append, List.find?_cons]
      cases spells name key <;> rfl
    rw [List.foldl_append, List.foldl_cons, List.foldl_nil, first?_setMember, ih, hFirst]
    cases hFind : first? name members with
    | none => cases spells name key <;> simp [lastOf?_append_one]
    | some first =>
      have hMember : first ∈ members := List.mem_of_find?_eq_some hFind
      obtain ⟨last, hLast⟩ := Option.isSome_iff_exists.mp (isSome_lastOf? hMember)
      simp only [hLast, lastOf?_append_one, Option.bind_some, Option.map_some, Option.some_or,
        eq_comm (a := key)]
      split <;> rfl

/-- A field of an object whose members have been taken one after another. -/
theorem field?_setMembers :
    field? name (members.foldl (fun done (key, value) => setMember key value done) []) =
      lastOfFirst? name members := by
  rw [field?_eq_first?, first?_setMembers, lastOfFirst?, Option.map_bind]
  congr 1
  funext first
  simp [Function.comp_def]

theorem exists_of_lastOfFirst? (h : lastOfFirst? name members = some value) :
    ∃ member ∈ members, member.2 = value := by
  obtain ⟨first, -, hLast⟩ := Option.bind_eq_some_iff.mp h
  obtain ⟨member, hFind, rfl⟩ := Option.map_eq_some_iff.mp hLast
  exact ⟨member, List.mem_reverse.mp (List.mem_of_find?_eq_some hFind), rfl⟩

theorem lastOfFirst?_map (f : Value → Value) :
    lastOfFirst? name (members.map (Prod.map id f)) = (lastOfFirst? name members).map f := by
  have hLast (key : Scalar) :
      lastOf? key (members.map (Prod.map id f)) = (lastOf? key members).map f := by
    rw [lastOf?, lastOf?, ← List.map_reverse, List.find?_map, Option.map_map, Option.map_map]
    rfl
  rw [lastOfFirst?, lastOfFirst?, first?, first?, List.find?_map, Option.map_bind,
    Option.bind_map]
  congr 1
  funext first
  exact hLast first.1

/-- Where no key comes twice, the first member is the last one with its key. -/
theorem lastOfFirst?_eq_field? (h : (members.map (·.1)).Nodup) :
    lastOfFirst? name members = field? name members := by
  rw [lastOfFirst?, field?_eq_first?]
  cases hFirst : first? name members with
  | none => rfl
  | some first =>
    have hMember : first ∈ members := List.mem_of_find?_eq_some hFirst
    obtain ⟨value, hValue⟩ := Option.isSome_iff_exists.mp (isSome_lastOf? hMember)
    obtain ⟨last, hLast, rfl⟩ := Option.map_eq_some_iff.mp hValue
    have hKey : first.1 = last.1 := by simpa using List.find?_some hLast
    have hSame : first = last := List.inj_on_of_nodup_map h hMember
      (List.mem_reverse.mp (List.mem_of_find?_eq_some hLast)) hKey
    rw [Option.bind_some, hValue, Option.map_some, hSame]

end Members

namespace Value

/-- The object that holds the fields with some names, as a rule picks them from the members of an
object, each settled in its own way. What is no object is merged. -/
def settleFields (rule : MemberRule) (names : List String) (settle : String → Value → Value) :
    Value → Value
  | .object members =>
    .object (names.filterMap fun name =>
      (rule name members).map fun value => (.text name, settle name value))
  | value => value.merged

def settleItems (settle : Value → Value) : Value → Value
  | .array items => .array (items.map settle)
  | value => value.merged

end Value

/-! Written values with the fields of each object that a form reads settled by a rule. The values
that are read by no form are merged. -/

def Column.settle (rule : MemberRule) : Value → Value :=
  .settleFields rule Form.column.fields fun _ => .merged

def Head.settle (rule : MemberRule) : Value → Value :=
  .settleFields rule Form.head.fields fun
    | "fields" => .settleItems (Column.settle rule)
    | _ => .merged

def Sample.settle (rule : MemberRule) : Value → Value :=
  .settleFields rule Form.sample.fields fun _ => .merged

def Batch.settle (rule : MemberRule) : Value → Value :=
  .settleFields rule Form.batch.fields fun
    | "head" => Head.settle rule
    | "data" => .settleItems (Sample.settle rule)
    | _ => .merged

def Definitions.settle (rule : MemberRule) : Value → Value :=
  .settleFields rule Form.definitions.fields fun _ => .merged

def Metadata.settle (rule : MemberRule) : Value → Value :=
  .settleFields rule Form.metadata.fields fun
    | "fields" => Definitions.settle rule
    | _ => .merged

/-- A rule gives the fields of each object of a value the last value of their first spelling. -/
inductive MemberRule.Fits (rule : MemberRule) : Value → Prop
  | scalar (s : Scalar) : Fits rule (.scalar s)
  | array {items : List Value} (h : ∀ item ∈ items, Fits rule item) : Fits rule (.array items)
  | object {members : List (Scalar × Value)}
      (hRule : ∀ name, rule name members = lastOfFirst? name members)
      (h : ∀ member ∈ members, Fits rule member.2) : Fits rule (.object members)

namespace Value

mutual

/-- Whether no key comes twice in any object of a value. -/
def hasKeysOnce : Value → Bool
  | .scalar _ => true
  | .array items => itemsHaveKeysOnce items
  | .object members => decide (members.map (·.1)).Nodup && membersHaveKeysOnce members

def itemsHaveKeysOnce : List Value → Bool
  | [] => true
  | value :: rest => value.hasKeysOnce && itemsHaveKeysOnce rest

def membersHaveKeysOnce : List (Scalar × Value) → Bool
  | [] => true
  | (_, value) :: rest => value.hasKeysOnce && membersHaveKeysOnce rest

end

theorem itemsHaveKeysOnce_eq_all (items : List Value) :
    itemsHaveKeysOnce items = items.all hasKeysOnce := by
  induction items with
  | nil => rfl
  | cons value rest ih => rw [itemsHaveKeysOnce, List.all_cons, ih]

theorem membersHaveKeysOnce_eq_all (members : List (Scalar × Value)) :
    membersHaveKeysOnce members = members.all (·.2.hasKeysOnce) := by
  induction members with
  | nil => rfl
  | cons member rest ih => rw [membersHaveKeysOnce, List.all_cons, ih]

end Value

theorem fits_lastOfFirst? (value : Value) : MemberRule.Fits lastOfFirst? value := by
  induction value using Value.induction with
  | scalar s => exact .scalar s
  | array items ih => exact .array ih
  | object members ih => exact .object (fun _ => rfl) ih

/-- Where no key comes twice, the first member that spells a field has its last value. -/
theorem fits_field? {value : Value} (h : value.hasKeysOnce = true) :
    MemberRule.Fits field? value := by
  induction value using Value.induction with
  | scalar s => exact .scalar s
  | array items ih =>
    rw [Value.hasKeysOnce, Value.itemsHaveKeysOnce_eq_all, List.all_eq_true] at h
    exact .array fun item hItem => ih item hItem (h item hItem)
  | object members ih =>
    rw [Value.hasKeysOnce, Value.membersHaveKeysOnce_eq_all, Bool.and_eq_true, List.all_eq_true,
      decide_eq_true_eq] at h
    refine .object (fun _ => (lastOfFirst?_eq_field? h.1).symm) fun member hMember => ?_
    exact ih member hMember (h.2 member hMember)

section Settling

open Value

variable {rule : MemberRule} {names : List String} {name : String} {members : List (Scalar × Value)}
  {settle : String → Value → Value}

theorem fold_fields (form : Form) : ∀ name ∈ form.fields, foldKey name.toList = name.toList := by
  cases form <;> decide +kernel

/-- A field of an object that holds fields under their own names. -/
theorem field?_settleFields (hNames : ∀ name ∈ names, foldKey name.toList = name.toList) :
    field? name (names.filterMap fun name =>
      (rule name members).map fun value => (.text name, settle name value)) =
      if name ∈ names then (rule name members).map (settle name) else none := by
  induction names with
  | nil => rfl
  | cons other rest ih =>
    obtain ⟨hOther, hRest⟩ := List.forall_mem_cons.mp hNames
    have hSpells : spells name (.text other) = decide (other = name) := by
      rw [spells, hOther, decide_eq_decide]
      exact String.toList_inj
    rw [List.filterMap_cons]
    cases hValue : rule other members with
    | none =>
      by_cases hName : name = other
      · subst hName
        simp [ih hRest, hValue]
      · simp [ih hRest, hName]
    | some value =>
      by_cases hName : name = other
      · subst hName
        simp [field?_cons, hSpells, hValue]
      · simp [field?_cons, hSpells, ih hRest, hName, Ne.symm hName]

/-- What is read of a settled field is what is read of the field of the merged object. -/
theorem readAlike_settleFields {α : Type} {read : Value → Checked α} {form : Form}
    (hName : name ∈ form.fields) (hRule : ∀ name, rule name members = lastOfFirst? name members)
    (hRead : ∀ member ∈ members, read (settle name member.2) = read member.2.merged) :
    ReadAlike name read
      (form.fields.filterMap fun name =>
        (rule name members).map fun value => (.text name, settle name value))
      ((members.map (Prod.map id merged)).foldl
        (fun done (key, value) => setMember key value done) []) := by
  rw [ReadAlike, field?_settleFields (fold_fields form), if_pos hName, field?_setMembers,
    lastOfFirst?_map, hRule]
  cases hField : lastOfFirst? name members with
  | none => rfl
  | some value =>
    obtain ⟨member, hMember, rfl⟩ := exists_of_lastOfFirst? hField
    exact congrArg some (hRead member hMember)

theorem toList_settleItems {α : Type} {read : Value → Checked α} {settle : Value → Value}
    {value : Value} (hFits : rule.Fits value)
    (hRead : ∀ value, rule.Fits value → read (settle value) = read value.merged) :
    toList read (settleItems settle value) = toList read value.merged := by
  cases hFits with
  | scalar | object => rfl
  | @array items h =>
    have hItems : items.map (read ∘ settle) = items.map (read ∘ merged) :=
      List.map_congr_left fun item hItem => hRead item (h item hItem)
    rw [settleItems, merged_array, toList_array, toList_array, List.map_map, List.map_map, hItems]

theorem Column.ofValue_settle {value : Value} (hFits : rule.Fits value) :
    Column.ofValue (Column.settle rule value) = Column.ofValue value.merged := by
  cases hFits with
  | scalar | array => rfl
  | object hRule h =>
    rw [merged_object, settle, settleFields]
    refine Column.ofValue_congr ?_ ?_ ?_ ?_ <;>
      exact readAlike_settleFields (by decide) hRule fun _ _ => rfl

theorem Sample.ofValue_settle {value : Value} (hFits : rule.Fits value) :
    Sample.ofValue (Sample.settle rule value) = Sample.ofValue value.merged := by
  cases hFits with
  | scalar | array => rfl
  | object hRule h =>
    rw [merged_object, settle, settleFields]
    refine Sample.ofValue_congr ?_ ?_ <;>
      exact readAlike_settleFields (by decide) hRule fun _ _ => rfl

theorem Head.ofValue_settle {value : Value} (hFits : rule.Fits value) :
    Head.ofValue (Head.settle rule value) = Head.ofValue value.merged := by
  cases hFits with
  | scalar | array => rfl
  | object hRule h =>
    rw [merged_object, settle, settleFields]
    refine Head.ofValue_congr ?_ ?_ ?_
    · exact readAlike_settleFields (by decide) hRule fun _ _ => rfl
    · exact readAlike_settleFields (by decide) hRule fun _ _ => rfl
    · refine readAlike_settleFields (by decide) hRule fun member hMember => ?_
      exact toList_settleItems (h member hMember) fun _ => Column.ofValue_settle

theorem Batch.ofValue_settle {value : Value} (hFits : rule.Fits value) :
    Batch.ofValue (Batch.settle rule value) = Batch.ofValue value.merged := by
  cases hFits with
  | scalar | array => rfl
  | object hRule h =>
    rw [merged_object, settle, settleFields]
    refine Batch.ofValue_congr ?_ ?_
    · exact readAlike_settleFields (by decide) hRule fun member hMember =>
        Head.ofValue_settle (h member hMember)
    · refine readAlike_settleFields (by decide) hRule fun member hMember => ?_
      exact congrArg (· >>= _)
        (toList_settleItems (h member hMember) fun _ => Sample.ofValue_settle)

theorem Definitions.ofValue_settle {value : Value} (hFits : rule.Fits value) :
    Definitions.ofValue (Definitions.settle rule value) = Definitions.ofValue value.merged := by
  cases hFits with
  | scalar | array => rfl
  | object hRule h =>
    rw [merged_object, settle, settleFields]
    refine Definitions.ofValue_congr ?_ ?_ <;>
      exact readAlike_settleFields (by decide) hRule fun _ _ => rfl

theorem Metadata.ofValue_settle {value : Value} (hFits : rule.Fits value) :
    Metadata.ofValue (Metadata.settle rule value) = Metadata.ofValue value.merged := by
  cases hFits with
  | scalar | array => rfl
  | object hRule h =>
    rw [merged_object, settle, settleFields]
    refine Metadata.ofValue_congr ?_
    exact readAlike_settleFields (by decide) hRule fun member hMember =>
      Definitions.ofValue_settle (h member hMember)

end Settling

/-- The record of a kind in a payload when its written value is settled and read in place of its
value. -/
def decodeSettled [Host] {α : Type} (kind : RecordKind) (settle : Value → Value)
    (read : Value → Checked α) (payload : Payload) : Except PayloadFault α :=
  decodeWith kind (fun value => read (((Json.written? payload.octets).map settle).getD value))
    payload

/-- The record of a kind in a payload when the fields of its written value are settled by a rule. -/
def Record.decodeBy [Host] (rule : MemberRule) (kind : RecordKind) (payload : Option Payload) :
    Except DecodeError Record :=
  match kind with
  | .data =>
    ofPayload (fun p => (decodeSettled .data (Batch.settle rule) Batch.ofValue p).map .data) payload
  | .metadata =>
    ofPayload (fun p =>
      (decodeSettled .metadata (Metadata.settle rule) Metadata.ofValue p).map .metadata) payload
  | kind => .error (.noRecords kind)

section Decoding

variable {rule : MemberRule} {payload : Payload}

theorem decodeWith_eq_decodeSettled [Host] {α : Type} (kind : RecordKind) {read : Value → Checked α}
    {names : List String} {settle : String → Value → Value}
    (hRead : ∀ written, Json.written? payload.octets = some written →
      read (Value.settleFields rule names settle written) = read written.merged) :
    decodeWith kind read payload =
      decodeSettled kind (Value.settleFields rule names settle) read payload := by
  rw [decodeSettled, decodeWith, decodeWith, Json.ofBytes?_eq_written]
  cases hWritten : Json.written? payload.octets with
  | none => rfl
  | some written =>
    have hSame := hRead written hWritten
    cases written with
    | scalar | array => rfl
    | object members =>
      rw [Value.merged_object, Value.ofMembers] at hSame
      simp only [Option.map_some, Option.getD_some, Value.merged_object, Value.ofMembers, hSame]

theorem decode_eq_decodeBy [Host] (kind : RecordKind)
    (hFits : ∀ written, Json.written? payload.octets = some written → rule.Fits written) :
    Record.decode kind (some payload) = Record.decodeBy rule kind (some payload) := by
  cases kind with
  | data =>
    have hBatch : Batch.ofPayload payload = decodeSettled .data (Batch.settle rule) Batch.ofValue
        payload :=
      decodeWith_eq_decodeSettled .data fun written h => Batch.ofValue_settle (hFits written h)
    simp only [Record.decode, Record.decodeBy, Record.ofPayload, hBatch]
  | metadata =>
    have hMetadata : Metadata.ofPayload payload =
        decodeSettled .metadata (Metadata.settle rule) Metadata.ofValue payload :=
      decodeWith_eq_decodeSettled .metadata fun written h =>
        Metadata.ofValue_settle (hFits written h)
    simp only [Record.decode, Record.decodeBy, Record.ofPayload, hMetadata]
  | unknown | unsupported => rfl

end Decoding

namespace Record

/-- Every payload gives the record of its text as it is written, where a field that several members
spell has the last value that is given for the first of their keys. So the first member wins in all
objects in which no key comes twice. -/
theorem decode_lastOfFirst [Host] (kind : RecordKind) (payload : Payload) :
    decode kind (some payload) = decodeBy lastOfFirst? kind (some payload) ∧
      ((∀ written, Json.written? payload.octets = some written → written.hasKeysOnce = true) →
        decode kind (some payload) = decodeBy field? kind (some payload)) := by
  constructor
  · exact decode_eq_decodeBy kind fun written _ => fits_lastOfFirst? written
  · intro hOnce
    exact decode_eq_decodeBy kind fun written hWritten => fits_field? (hOnce written hWritten)

/-- The keys that a metadata record names, if there is one. -/
def namedKeys? : Except DecodeError Record → Option (List String)
  | .ok (.metadata found) => some found.keys
  | _ => none

/-- Metadata whose keys are given three times, by two spellings. -/
def thriceGiven (third : String) : Payload :=
  .text ("\x7b\"fields\":\x7b\"key\":[\"a\"],\"KEY\":[\"b\"],\"" ++ third ++
    "\":[\"c\"],\"definitions\":\x7b\x7d\x7d\x7d")

attribute [local instance] Host.usual

/-- The first member wins where its key does not come again. -/
theorem decode_lastOfFirst_spellings :
    let payload := thriceGiven "Key"
    (∀ written, Json.written? payload.octets = some written → written.hasKeysOnce = true) ∧
      namedKeys? (decode .metadata (some payload)) = some ["a"] ∧
        decode .metadata (some payload) = decodeBy field? .metadata (some payload) := by
  have hOnce : (Json.written? (thriceGiven "Key").octets).all Value.hasKeysOnce = true := by
    decide +kernel
  have hEach : ∀ written, Json.written? (thriceGiven "Key").octets = some written →
      written.hasKeysOnce = true := by
    intro written hWritten
    rw [hWritten] at hOnce
    exact hOnce
  refine ⟨hEach, ?_, ?_⟩
  · decide +kernel
  · exact (decode_lastOfFirst .metadata (thriceGiven "Key")).2 hEach

/-- Where the first key comes again, the first member does not win. -/
theorem decode_ne_first :
    let payload := thriceGiven "key"
    namedKeys? (decode .metadata (some payload)) = some ["c"] ∧
      namedKeys? (decodeBy field? .metadata (some payload)) = some ["a"] ∧
        decode .metadata (some payload) ≠ decodeBy field? .metadata (some payload) := by
  have hDecoded : namedKeys? (decode .metadata (some (thriceGiven "key"))) = some ["c"] := by
    decide +kernel
  have hFirst : namedKeys? (decodeBy field? .metadata (some (thriceGiven "key"))) = some ["a"] := by
    decide +kernel
  refine ⟨hDecoded, hFirst, fun hSame => ?_⟩
  rw [hSame, hFirst] at hDecoded
  exact absurd hDecoded (by decide)

end Record

end TelemetryLog
