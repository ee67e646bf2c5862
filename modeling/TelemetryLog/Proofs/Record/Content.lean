import TelemetryLog.Proofs.Record.Spelling

/-! What is expected of values. `Content` names what can be expected of a value that is read for a
record; `Content.complaint?` says what is wrong with a value on the whole, and `Content.parts` what
is expected of its parts and in which order. What is wrong with a value is what is wrong on the
whole and, one after another, what is wrong with each part when it is read alone. -/

namespace TelemetryLog

/-- What is expected of a value: a record of a form, what a field holds, or a list of either. -/
inductive Content where
  | record (form : Form)
  | text
  | truth
  | integer
  | time
  | numbers
  | list
  | orNull (content : Content)
  | listOf (content : Content)
  | samples
  | entries
  deriving DecidableEq, Repr

namespace Content

def Result : Content → Type
  | .record form => form.Result
  | .text => String
  | .truth => Bool
  | .integer => Int
  | .time => Stamp
  | .numbers => List Binary64
  | .list => List Value
  | .orNull content => Option content.Result
  | .listOf content => List content.Result
  | .samples => Sample × List Sample
  | .entries => List (String × List Value)

def read : (content : Content) → Value → Checked content.Result
  | .record form => form.read
  | .text => Value.toText
  | .truth => Value.toBool
  | .integer => Value.toInteger
  | .time => Value.toTime
  | .numbers => Value.toNumbers
  | .list => Definitions.listOfValue
  | .orNull content => Value.toOptional content.read
  | .listOf content => Value.toList content.read
  | .samples => Batch.samplesOfValue
  | .entries => Definitions.entriesOfValue

end Content

/-- What is expected of a field of a form. -/
structure Rule where
  name : String
  isRequired : Bool
  content : Content
  deriving DecidableEq, Repr

/-- The fields of a form in the order in which they are declared. -/
def Form.rules : Form → List Rule
  | .batch => [⟨"head", true, .record .head⟩, ⟨"data", true, .samples⟩]
  | .head =>
    [⟨"transaction", false, .orNull .integer⟩, ⟨"signature", false, .orNull .integer⟩,
      ⟨"fields", true, .listOf (.record .column)⟩]
  | .column =>
    [⟨"name", false, .text⟩, ⟨"type", false, .orNull .text⟩, ⟨"process", false, .orNull .text⟩,
      ⟨"settable", false, .truth⟩]
  | .sample => [⟨"time", true, .time⟩, ⟨"vals", true, .numbers⟩]
  | .metadata => [⟨"fields", true, .record .definitions⟩]
  | .definitions => [⟨"key", false, .listOf .text⟩, ⟨"definitions", true, .entries⟩]

/-- A part of a value: another value of which something is expected, or a field that has to be there
and is not. -/
inductive Part where
  | missing
  | holds (content : Content) (value : Value)

def Rule.part? (rule : Rule) (members : List (Scalar × Value)) : Option (Step × Part) :=
  match field? rule.name members with
  | some value => some (.field rule.name, .holds rule.content value)
  | none => if rule.isRequired then some (.field rule.name, .missing) else none

def itemParts (content : Content) (items : List Value) : List (Step × Part) :=
  items.mapIdx fun i item => (.item i, .holds content item)

/-- The parts of a value of which something is expected, in the order in which they are read. A
value that is not as expected on the whole has none. -/
def Content.parts : Content → Value → List (Step × Part)
  | .record form, .object members => form.rules.filterMap (·.part? members)
  | .orNull _, .scalar .null => []
  | .orNull content, value => content.parts value
  | .listOf content, .array items => itemParts content items
  | .samples, .array items => itemParts (.record .sample) items
  | .entries, .object members => members.map fun (key, value) => (.member key, .holds .list value)
  | _, _ => []

/-- The complaint of a result that is refused for one reason. -/
def Checked.complaint? {α : Type} : Checked α → Option Complaint
  | .error [v] => some v.complaint
  | _ => none

/-- What is wrong with a value on the whole, whatever its parts are. -/
def Content.complaint? : Content → Value → Option Complaint
  | .record _, .object _ => none
  | .record form, _ => some (.notForm form)
  | .text, .scalar (.text _) => none
  | .text, _ => some .notText
  | .truth, value => value.toBool.complaint?
  | .integer, value => value.toInteger.complaint?
  | .time, value => value.toTime.complaint?
  | .numbers, .array items =>
    (items.zipIdx.find? fun (item, _) => !item.isNumber).map fun (item, i) => .notNumeric i item
  | .numbers, _ => some .valuesNotList
  | .orNull _, .scalar .null => none
  | .orNull content, value => content.complaint? value
  | .samples, .array [] => some .noSamples
  | .list, .array _ | .listOf _, .array _ | .samples, .array _ => none
  | .list, _ | .listOf _, _ | .samples, _ => some .notList
  | .entries, .object _ => none
  | .entries, _ => some .notObject

section OrNull

variable {content : Content} {value : Value} (h : value ≠ .scalar .null)
include h

theorem Content.parts_orNull : (orNull content).parts value = content.parts value := by
  rw [parts]
  exact h

theorem Content.complaint?_orNull :
    (orNull content).complaint? value = content.complaint? value := by
  rw [complaint?]
  exact h

theorem Content.violations_orNull :
    ((orNull content).read value).violations = (content.read value).violations := by
  rw [read, Value.toOptional]
  · exact Checked.violations_map _ _
  · exact h

end OrNull

def Part.violations : Part → List Violation
  | .missing => [⟨[], .missing⟩]
  | .holds content value => (content.read value).violations

/-- All that is wrong with parts. -/
def partViolations (parts : List (Step × Part)) : List Violation :=
  parts.flatMap fun (step, part) => part.violations.map (.below [step])

namespace Checked

variable {α β : Type}

/-- What comes of a conversion: a result, or the one reason for there being none. That there are no
samples is no such reason. -/
def IsConversion (r : Checked α) : Prop :=
  (∃ a, r = .ok a) ∨ ∃ c, r = refuse c ∧ c ≠ .noSamples

theorem IsConversion.violations_eq {r : Checked α} (h : r.IsConversion) :
    r.violations = r.complaint?.toList.map (⟨[], ·⟩) := by
  obtain ⟨a, rfl⟩ | ⟨c, rfl, -⟩ := h <;> rfl

theorem IsConversion.complaint?_ne {r : Checked α} (h : r.IsConversion) :
    r.complaint? ≠ some .noSamples := by
  obtain ⟨a, rfl⟩ | ⟨c, rfl, hOther⟩ := h
  · exact nofun
  · simpa [complaint?, refuse] using hOther

end Checked

section Fields

variable {α : Type} {name : String} {members : List (Scalar × Value)} (read : Value → Checked α)
  (content : Content)

theorem violations_requiredField
    (h : ∀ value, (read value).violations = (content.read value).violations) :
    (requiredField name read members).violations =
      partViolations ((Rule.mk name true content).part? members).toList := by
  rw [requiredField, Checked.violations_within, Rule.part?]
  cases field? name members <;> simp [partViolations, Part.violations, h]

theorem violations_optionalField (usual : α)
    (h : ∀ value, (read value).violations = (content.read value).violations) :
    (optionalField name usual read members).violations =
      partViolations ((Rule.mk name false content).part? members).toList := by
  rw [optionalField, Checked.violations_within, Rule.part?]
  cases field? name members <;> simp [partViolations, Part.violations, h]

end Fields

/-- What is wrong with the fields of a form, one after another. -/
def Form.fieldViolations (form : Form) (members : List (Scalar × Value)) : List Violation :=
  partViolations (form.rules.filterMap (·.part? members))

theorem Form.fieldViolations_eq (form : Form) (members : List (Scalar × Value)) :
    form.fieldViolations members =
      form.rules.flatMap fun rule => partViolations (rule.part? members).toList := by
  rw [fieldViolations]
  induction form.rules with
  | nil => rfl
  | cons rule rules ih =>
    rw [List.filterMap_cons, List.flatMap_cons, ← ih]
    cases rule.part? members <;> simp [partViolations]

section Forms

variable (members : List (Scalar × Value))

theorem Column.violations_object :
    (Column.ofValue (.object members)).violations = Form.fieldViolations .column members := by
  show Checked.violations (Except.map _ _) = _
  simp only [Checked.violations_map, Checked.violations_both, Form.fieldViolations_eq, Form.rules,
    List.flatMap_cons, List.flatMap_nil, List.append_nil, List.append_assoc]
  rw [violations_optionalField Value.toText .text _ fun _ => rfl,
    violations_optionalField (Value.toOptional Value.toText) (.orNull .text) _ fun _ => rfl,
    violations_optionalField (Value.toOptional Value.toText) (.orNull .text) _ fun _ => rfl,
    violations_optionalField Value.toBool .truth _ fun _ => rfl]

theorem Sample.violations_object :
    (Sample.ofValue (.object members)).violations = Form.fieldViolations .sample members := by
  show Checked.violations (Except.map _ _) = _
  simp only [Checked.violations_map, Checked.violations_both, Form.fieldViolations_eq, Form.rules,
    List.flatMap_cons, List.flatMap_nil, List.append_nil]
  rw [violations_requiredField Value.toTime .time fun _ => rfl,
    violations_requiredField Value.toNumbers .numbers fun _ => rfl]

theorem Head.violations_object :
    (Head.ofValue (.object members)).violations = Form.fieldViolations .head members := by
  show Checked.violations (Except.map _ _) = _
  simp only [Checked.violations_map, Checked.violations_both, Form.fieldViolations_eq, Form.rules,
    List.flatMap_cons, List.flatMap_nil, List.append_nil, List.append_assoc]
  rw [violations_optionalField (Value.toOptional Value.toInteger) (.orNull .integer) _ fun _ => rfl,
    violations_optionalField (Value.toOptional Value.toInteger) (.orNull .integer) _ fun _ => rfl,
    violations_requiredField (Value.toList Column.ofValue) (.listOf (.record .column)) fun _ => rfl]

theorem Batch.violations_object :
    (Batch.ofValue (.object members)).violations = Form.fieldViolations .batch members := by
  show Checked.violations (Except.map _ _) = _
  simp only [Checked.violations_map, Checked.violations_both, Form.fieldViolations_eq, Form.rules,
    List.flatMap_cons, List.flatMap_nil, List.append_nil]
  rw [violations_requiredField Head.ofValue (.record .head) fun _ => rfl,
    violations_requiredField samplesOfValue .samples fun _ => rfl]

theorem Definitions.violations_object :
    (Definitions.ofValue (.object members)).violations =
      Form.fieldViolations .definitions members := by
  show Checked.violations (Except.map _ _) = _
  simp only [Checked.violations_map, Checked.violations_both, Form.fieldViolations_eq, Form.rules,
    List.flatMap_cons, List.flatMap_nil, List.append_nil]
  rw [violations_optionalField (Value.toList Value.toText) (.listOf .text) _ fun _ => rfl,
    violations_requiredField entriesOfValue .entries fun _ => rfl]

theorem Metadata.violations_object :
    (Metadata.ofValue (.object members)).violations = Form.fieldViolations .metadata members := by
  show Checked.violations (Except.map _ _) = _
  simp only [Checked.violations_map, Form.fieldViolations_eq, Form.rules, List.flatMap_cons,
    List.flatMap_nil, List.append_nil]
  rw [violations_requiredField Definitions.ofValue (.record .definitions) fun _ => rfl]

end Forms

/-- What is wrong with an object that is read by a form is what is wrong with its fields. -/
theorem Form.violations_object (form : Form) (members : List (Scalar × Value)) :
    (form.read (.object members)).violations = form.fieldViolations members := by
  cases form with
  | batch => exact Batch.violations_object members
  | head => exact Head.violations_object members
  | column => exact Column.violations_object members
  | sample => exact Sample.violations_object members
  | metadata => exact Metadata.violations_object members
  | definitions => exact Definitions.violations_object members

/-- A value that is no object has nothing else wrong with it. -/
theorem Form.violations_other (form : Form) {value : Value}
    (h : ∀ members, value ≠ .object members) :
    (form.read value).violations = [⟨[], .notForm form⟩] := by
  cases value with
  | object members => exact absurd rfl (h members)
  | scalar | array => cases form <;> rfl

namespace Value

variable (value : Value)

theorem isConversion_truthOfInteger (i : Int) : (truthOfInteger i).IsConversion := by
  unfold truthOfInteger
  repeat' split
  · exact .inl ⟨_, rfl⟩
  · exact .inl ⟨_, rfl⟩
  · exact .inr ⟨_, rfl, nofun⟩

theorem isConversion_toBool : value.toBool.IsConversion := by
  unfold toBool
  repeat' split
  all_goals first
    | exact isConversion_truthOfInteger _
    | exact .inl ⟨_, rfl⟩
    | exact .inr ⟨_, rfl, nofun⟩

theorem isConversion_toInteger : value.toInteger.IsConversion := by
  unfold toInteger integerOfNumber integerOfText
  repeat' split
  all_goals first
    | exact .inl ⟨_, rfl⟩
    | exact .inr ⟨_, rfl, nofun⟩

theorem isConversion_timeOf (result : Except TimeFault Stamp) : (timeOf result).IsConversion := by
  cases result with
  | ok stamp => exact .inl ⟨_, rfl⟩
  | error fault => exact .inr ⟨_, rfl, nofun⟩

theorem isConversion_toTime : value.toTime.IsConversion := by
  unfold toTime timeOfInteger
  repeat' split
  all_goals first
    | exact isConversion_timeOf _
    | exact .inr ⟨_, rfl, nofun⟩

end Value

/-- Values as texts have them. -/
structure Json.IsReadable (value : Value) : Prop where
  inRange : InRange value
  isKeyed : IsKeyed value

theorem Json.isReadable_ofBytes? {bytes : List UInt8} {value : Value}
    (h : ofBytes? bytes = some value) : IsReadable value :=
  ⟨inRange_ofBytes? h, isKeyed_ofBytes? h⟩

theorem violations_toList (content : Content) (items : List Value) :
    (Value.toList content.read (.array items)).violations =
      partViolations (itemParts content items) := by
  rw [Value.toList, Checked.violations_all, partViolations, itemParts, List.mapIdx_eq_zipIdx_map,
    List.mapIdx_eq_zipIdx_map, List.flatMap_map, List.flatMap_map]
  simp only [Checked.violations_within, Part.violations]

theorem violations_samplesOfValue (items : List Value) :
    (Batch.samplesOfValue (.array items)).violations =
      (Content.complaint? .samples (.array items)).toList.map (⟨[], ·⟩) ++
        partViolations (itemParts (.record .sample) items) := by
  cases items with
  | nil => rfl
  | cons item rest =>
    have hItems : (Value.toList Sample.ofValue (.array (item :: rest))).violations =
        partViolations (itemParts (.record .sample) (item :: rest)) :=
      violations_toList (.record .sample) (item :: rest)
    rw [Batch.samplesOfValue, Content.complaint?, ← hItems]
    · cases hSamples : Value.toList Sample.ofValue (.array (item :: rest)) with
      | error vs => rfl
      | ok samples =>
        cases samples with
        | cons first others => rfl
        | nil =>
          obtain ⟨_, ⟨⟩, hAll⟩ := Value.toList_eq_ok.mp hSamples
          cases hAll
    · rintro ⟨⟩

theorem violations_toNumbers {items : List Value} (h : Json.InRange (.array items)) :
    (Value.toNumbers (.array items)).violations =
      (Content.complaint? .numbers (.array items)).toList.map (⟨[], ·⟩) := by
  show _ = ((Value.firstNonNumber? items).map fun (item, i) =>
    Complaint.notNumeric i item).toList.map _
  cases hFirst : Value.firstNonNumber? items with
  | some first =>
    rw [Value.toNumbers, hFirst]
    rfl
  | none =>
    have hAll := Value.firstNonNumber?_eq_none.mp hFirst
    obtain ⟨xs, hLists⟩ := (Value.exists_lists Value.exists_isNumeralOf _).mpr ⟨items, rfl, hAll⟩
    rw [(Value.toNumbers_eq_ok h).mpr hLists]
    rfl

theorem violations_entriesOfValue {members : List (Scalar × Value)}
    (h : Json.AreKeys (members.map Prod.fst)) :
    (Definitions.entriesOfValue (.object members)).violations =
      partViolations (Content.parts .entries (.object members)) := by
  rw [Definitions.entriesOfValue, Checked.violations_all, partViolations, Content.parts,
    List.flatMap_map, List.flatMap_map]
  refine List.flatMap_congr fun member hMember => ?_
  obtain ⟨name, hName⟩ := h.texts _ (List.mem_map_of_mem hMember)
  obtain ⟨key, value⟩ := member
  obtain rfl : key = .text name := hName
  rw [Definitions.entryOfMember, Checked.violations_within, Checked.violations_both,
    Definitions.nameOfKey, Checked.violations_ok, List.nil_append]
  rfl

/-- What is wrong with a value is what is wrong on the whole, and then what is wrong with its parts
when each is read alone. -/
theorem Content.violations_read {value : Value} (h : Json.IsReadable value) (content : Content) :
    (content.read value).violations =
      (content.complaint? value).toList.map (⟨[], ·⟩) ++ partViolations (content.parts value) := by
  induction content with
  | record form =>
    cases value with
    | object members => exact form.violations_object members
    | scalar | array => exact form.violations_other nofun
  | text =>
    cases value with
    | scalar s => cases s <;> rfl
    | array | object => rfl
  | truth => exact value.isConversion_toBool.violations_eq.trans (List.append_nil _).symm
  | integer => exact value.isConversion_toInteger.violations_eq.trans (List.append_nil _).symm
  | time => exact value.isConversion_toTime.violations_eq.trans (List.append_nil _).symm
  | numbers =>
    cases value with
    | array items => exact (violations_toNumbers h.inRange).trans (List.append_nil _).symm
    | scalar | object => rfl
  | list => cases value <;> rfl
  | orNull content ih =>
    by_cases hNull : value = .scalar .null
    · rw [hNull]
      rfl
    · rw [violations_orNull hNull, complaint?_orNull hNull, parts_orNull hNull, ih]
  | listOf content _ =>
    cases value with
    | array items => exact violations_toList content items
    | scalar | object => rfl
  | samples =>
    cases value with
    | array items => exact violations_samplesOfValue items
    | scalar | object => rfl
  | entries =>
    cases value with
    | object members =>
      cases h.isKeyed with
      | object hKeys _ => exact violations_entriesOfValue hKeys
    | scalar | array => rfl

end TelemetryLog
