import TelemetryLog.Proofs.Dispatch.Answer
import TelemetryLog.Proofs.Record.Violations

/-! The causes of refusals. An object that gives no record is refused with the account of all that
is wrong with it, one text for each violation; there is no refusal only where one of the violations
cannot be put to words. -/

namespace TelemetryLog

/-- Whether a list of samples can stand among the parts of a value. -/
def Content.hasSamples : Content → Bool
  | .record .batch | .samples => true
  | .orNull content | .listOf content => content.hasSamples
  | _ => false

section Samples

variable {content inner : Content} {value part : Value} {step : Step} {v : Violation}

theorem complaint?_ne_noSamples (h : content.hasSamples = false) :
    content.complaint? value ≠ some .noSamples := by
  intro hComplaint
  induction content with
  | truth => exact value.isConversion_toBool.complaint?_ne hComplaint
  | integer => exact value.isConversion_toInteger.complaint?_ne hComplaint
  | time => exact value.isConversion_toTime.complaint?_ne hComplaint
  | samples => cases h
  | orNull content ih =>
    by_cases hNull : value = .scalar .null
    · subst hNull
      cases hComplaint
    · rw [Content.complaint?_orNull hNull] at hComplaint
      exact ih h hComplaint
  | text =>
    cases value with
    | scalar s => cases s <;> cases hComplaint
    | array | object => cases hComplaint
  | numbers =>
    cases value with
    | scalar | object => cases hComplaint
    | array items =>
      obtain ⟨first, -, hFirst⟩ := Option.map_eq_some_iff.mp hComplaint
      cases hFirst
  | record | list | listOf | entries => cases value <;> cases hComplaint

theorem hasSamples_parts (h : content.hasSamples = false)
    (hPart : (step, .holds inner part) ∈ content.parts value) : inner.hasSamples = false := by
  induction content with
  | record form =>
    cases value with
    | scalar | array => cases hPart
    | object members =>
      obtain ⟨rule, hRule, hPart⟩ := List.mem_filterMap.mp hPart
      obtain ⟨-, ⟨_, -, ⟨⟩⟩ | ⟨-, -, ⟨⟩⟩⟩ := Rule.part?_eq_some.mp hPart
      have hRules : ∀ rule ∈ form.rules, rule.content.hasSamples = false := by
        cases form with
        | batch => cases h
        | _ => decide
      exact hRules rule hRule
  | orNull content ih =>
    by_cases hNull : value = .scalar .null
    · subst hNull
      cases hPart
    · rw [Content.parts_orNull hNull] at hPart
      exact ih h hPart
  | listOf content _ =>
    cases value with
    | scalar | object => cases hPart
    | array items =>
      obtain ⟨_, _, -, -, ⟨⟩⟩ := mem_itemParts.mp hPart
      exact h
  | samples => cases h
  | entries =>
    cases value with
    | scalar | array => cases hPart
    | object members =>
      obtain ⟨_, -, ⟨⟩⟩ := List.mem_map.mp hPart
      rfl
  | text | truth | integer | time | numbers | list => cases value <;> cases hPart

theorem Violated.ne_noSamples (h : Violated content value v) (hNone : content.hasSamples = false) :
    v.complaint ≠ .noSamples := by
  induction h with
  | whole hWhole =>
    rintro rfl
    exact complaint?_ne_noSamples hNone hWhole
  | missing => exact nofun
  | part hPart _ ih => exact ih (hasSamples_parts hNone hPart)

theorem Violated.samples_empty (h : Violated .samples value v)
    (hComplaint : v.complaint = .noSamples) : value = .array [] := by
  cases h with
  | whole hWhole =>
    obtain rfl : _ = Complaint.noSamples := hComplaint
    cases value with
    | scalar | object => cases hWhole
    | array items =>
      cases items with
      | nil => rfl
      | cons => cases hWhole
  | missing => cases hComplaint
  | part hPart h =>
    cases value with
    | scalar | object => cases hPart
    | array items =>
      obtain ⟨_, _, -, -, ⟨⟩⟩ := mem_itemParts.mp hPart
      exact absurd hComplaint (h.ne_noSamples rfl)

/-- A complaint that there are no samples is made exactly where the list of samples is empty. -/
theorem Violated.noSamples_iff {form : Form} {members : List (Scalar × Value)}
    (hForm : form = .batch ∨ form = .metadata) :
    (∃ v, Violated (.record form) (.object members) v ∧ v.complaint = .noSamples) ↔
      form = .batch ∧ field? "data" members = some (.array []) := by
  constructor
  · rintro ⟨v, hViolated, hComplaint⟩
    obtain rfl | rfl := hForm
    · refine ⟨rfl, ?_⟩
      cases hViolated with
      | whole h => cases h
      | missing => cases hComplaint
      | part hPart h =>
        obtain ⟨rule, hRule, hPart⟩ := List.mem_filterMap.mp hPart
        obtain ⟨-, ⟨value, hField, ⟨⟩⟩ | ⟨-, -, ⟨⟩⟩⟩ := Rule.part?_eq_some.mp hPart
        obtain rfl | rfl := List.mem_pair.mp hRule
        · exact absurd hComplaint (h.ne_noSamples rfl)
        · rw [hField, h.samples_empty hComplaint]
    · exact absurd hComplaint (hViolated.ne_noSamples rfl)
  · rintro ⟨rfl, hData⟩
    have hRule : ⟨"data", true, .samples⟩ ∈ Form.rules .batch := by decide
    exact ⟨_, .part (mem_fieldParts hRule hData) (.whole rfl), rfl⟩

end Samples

section Payloads

variable {kind : RecordKind} {form : Form} {payload : Payload} {members : List (Scalar × Value)}

theorem RecordKind.form?_cases (h : kind.form? = some form) :
    kind = .data ∧ form = .batch ∨ kind = .metadata ∧ form = .metadata := by
  cases kind <;> cases h <;> simp

theorem exists_decode_of_read [Host] (hForm : kind.form? = some form)
    (hRead : Json.ofBytes? payload.octets = some (.object members)) {a : form.Result}
    (h : form.read (.object members) = .ok a) :
    ∃ record, Record.decode kind (some payload) = .ok record := by
  obtain ⟨rfl, rfl⟩ | ⟨rfl, rfl⟩ := RecordKind.form?_cases hForm
  · have hValue : Batch.ofValue (.object members) = .ok a := h
    refine ⟨.data a, ?_⟩
    simp only [Record.decode, Record.ofPayload, Batch.ofPayload, decodeWith, hRead, hValue]
    rfl
  · have hValue : Metadata.ofValue (.object members) = .ok a := h
    refine ⟨.metadata a, ?_⟩
    simp only [Record.decode, Record.ofPayload, Metadata.ofPayload, decodeWith, hRead, hValue]
    rfl

/-- An object that its form refuses is refused for all that is wrong, if that can be told. -/
theorem decode_eq_unread [Host] (hForm : kind.form? = some form)
    (hRead : Json.ofBytes? payload.octets = some (.object members)) {vs : List Violation}
    (h : form.read (.object members) = .error vs) :
    Record.decode kind (some payload) = .error (.unread
      (if vs.any (·.complaint.isTooDeep) then .tooDeep
        else .refused ⟨kind, .violations vs, payload⟩)) := by
  obtain ⟨rfl, rfl⟩ | ⟨rfl, rfl⟩ := RecordKind.form?_cases hForm
  · have hValue : Batch.ofValue (.object members) = .error vs := h
    simp only [Record.decode, Record.ofPayload, Batch.ofPayload, decodeWith, hRead, hValue]
    split <;> rfl
  · have hValue : Metadata.ofValue (.object members) = .error vs := h
    simp only [Record.decode, Record.ofPayload, Metadata.ofPayload, decodeWith, hRead, hValue]
    split <;> rfl

theorem exists_decode_iff [Host] (hForm : kind.form? = some form)
    (hRead : Json.ofBytes? payload.octets = some (.object members)) :
    (∃ record, Record.decode kind (some payload) = .ok record) ↔
      ∃ a, form.read (.object members) = .ok a := by
  constructor
  · rintro ⟨record, hRecord⟩
    cases hValue : form.read (.object members) with
    | ok a => exact ⟨a, rfl⟩
    | error vs => cases (decode_eq_unread hForm hRead hValue).symm.trans hRecord
  · rintro ⟨a, hValue⟩
    exact exists_decode_of_read hForm hRead hValue

theorem partAt_sample {items : List Value} {i : Nat} {item : Value}
    (hData : field? "data" members = some (.array items)) (hItem : items[i]? = some item) :
    PartAt (.record .batch) (.object members) [.field "data", .item i] (.record .sample) item := by
  have hRule : ⟨"data", true, .samples⟩ ∈ Form.rules .batch := by decide
  have hMem : (.item i, .holds (.record .sample) item) ∈ Content.parts .samples (.array items) :=
    mem_itemParts.mpr ⟨i, item, hItem, rfl, rfl⟩
  exact .part (mem_fieldParts hRule hData) (.part hMem (.whole _ _))

theorem partAt_column {head : List (Scalar × Value)} {items : List Value} {j : Nat} {item : Value}
    (hHead : field? "head" members = some (.object head))
    (hFields : field? "fields" head = some (.array items)) (hItem : items[j]? = some item) :
    PartAt (.record .batch) (.object members) [.field "head", .field "fields", .item j]
      (.record .column) item := by
  have hOuter : ⟨"head", true, .record .head⟩ ∈ Form.rules .batch := by decide
  have hInner : ⟨"fields", true, .listOf (.record .column)⟩ ∈ Form.rules .head := by decide
  have hMem : (.item j, .holds (.record .column) item) ∈
      Content.parts (.listOf (.record .column)) (.array items) :=
    mem_itemParts.mpr ⟨j, item, hItem, rfl, rfl⟩
  exact .part (mem_fieldParts hOuter hHead)
    (.part (mem_fieldParts hInner hFields) (.part hMem (.whole _ _)))

/-- What is wrong with an object that should be a record. The account has one violation for all that
is wrong, in order, and for each part what is wrong with it alone; it is empty exactly when there is
a record. Otherwise the object is refused with the account as the cause, one text for each
violation, unless a violation quotes a value that is nested too deep for words. -/
theorem Record.decode_account [Host] (hForm : kind.form? = some form)
    (hRead : Json.ofBytes? payload.octets = some (.object members)) :
    let value := Value.object members
    let vs := (form.read value).violations
    (Content.record form).Account value vs ∧
    (∀ items i item, form = .batch → field? "data" members = some (.array items) →
      items[i]? = some item → ((∃ v ∈ vs, [.field "data", .item i] <+: v.place) ↔
        ¬ ∃ sample, Sample.ofValue item = .ok sample)) ∧
    (∀ head items j item, form = .batch → field? "head" members = some (.object head) →
      field? "fields" head = some (.array items) → items[j]? = some item →
        ((∃ v ∈ vs, [.field "head", .field "fields", .item j] <+: v.place) ↔
          ¬ ∃ column, Column.ofValue item = .ok column)) ∧
    ((∃ v ∈ vs, v.complaint = .noSamples) ↔
      form = .batch ∧ field? "data" members = some (.array [])) ∧
    ((∃ record, Record.decode kind (some payload) = .ok record) ↔ vs = []) ∧
    (vs ≠ [] → Record.decode kind (some payload) = .error (.unread
      (if vs.any (·.complaint.isTooDeep) then .tooDeep
        else .refused ⟨kind, .violations vs, payload⟩))) ∧
    (DecodeCause.violations vs).message = String.ofList (Text.joinWith [';', ' ']
      (vs.map fun v => Violation.placeChars v.place ++ ([':', ' '] ++ v.complaint.chars))) := by
  intro value vs
  have hReadable := Json.isReadable_ofBytes? hRead
  have hAccount : (Content.record form).Account value vs := Content.account_read hReadable _
  refine ⟨hAccount, ?_, ?_, ?_, ?_, ?_, rfl⟩
  · rintro items i item rfl hData hItem
    exact (hAccount.composed (partAt_sample hData hItem)).2
  · rintro head items j item rfl hHead hFields hItem
    exact (hAccount.composed (partAt_column hHead hFields hItem)).2
  · simp only [hAccount.complete]
    refine Violated.noSamples_iff ?_
    obtain ⟨-, hBatch⟩ | ⟨-, hMetadata⟩ := RecordKind.form?_cases hForm
    · exact .inl hBatch
    · exact .inr hMetadata
  · rw [exists_decode_iff hForm hRead]
    exact (form.hasReason_read value).violations_eq_nil.symm
  · intro hSome
    cases hValue : form.read value with
    | ok a => exact absurd (congrArg Checked.violations hValue) hSome
    | error ws =>
      have hViolations : vs = ws := congrArg Checked.violations hValue
      rw [hViolations]
      exact decode_eq_unread hForm hRead hValue

end Payloads

attribute [local instance] Host.usual

/-- Five things are wrong, and each is told with its place: two fields of a column, the time and the
values of the first sample, and the second sample. -/
theorem Record.decode_account_five :
    let payload : Payload := .text ("\x7b\"head\":\x7b\"fields\":[\x7b\x7d," ++
      "\x7b\"name\":1,\"type\":2\x7d]\x7d,\"data\":[\x7b\"vals\":[1,true,\"x\"]\x7d,7]\x7d")
    ∃ fault, Record.decode .data (some payload) = .error (.unread (.refused fault)) ∧
      fault.cause.message = "head.fields.1.name: Input should be a valid string; " ++
        "head.fields.1.type: Input should be a valid string; data.0.time: Field required; " ++
        "data.0.vals: Value error, vals[1] is not numeric: True; " ++
        "data.1: Input should be a valid dictionary or instance of Sample" := by
  intro payload
  let head : Value := .object [(.text "fields", .array [.object [],
    .object [(.text "name", .scalar (.int 1)), (.text "type", .scalar (.int 2))]])]
  let data : Value := .array [.object [(.text "vals", .array [.scalar (.int 1),
    .scalar (.bool true), .text "x"])], .scalar (.int 7)]
  let vs : List Violation := [
    ⟨[.field "head", .field "fields", .item 1, .field "name"], .notText⟩,
    ⟨[.field "head", .field "fields", .item 1, .field "type"], .notText⟩,
    ⟨[.field "data", .item 0, .field "time"], .missing⟩,
    ⟨[.field "data", .item 0, .field "vals"], .notNumeric 1 (.scalar (.bool true))⟩,
    ⟨[.field "data", .item 1], .notForm .sample⟩]
  have hRead : Json.ofBytes? payload.octets =
      some (.object [(.text "head", head), (.text "data", data)]) := by decide +kernel
  have hViolations : (Form.read .batch (.object [(.text "head", head),
      (.text "data", data)])).violations = vs := by decide +kernel
  obtain ⟨-, -, -, -, -, hRefused, hMessage⟩ :=
    @Record.decode_account .data .batch payload _ _ rfl hRead
  rw [hViolations] at hRefused hMessage
  have hTold : vs.any (·.complaint.isTooDeep) = false := by decide +kernel
  rw [hTold] at hRefused
  exact ⟨_, hRefused (by decide), hMessage.trans (by decide +kernel)⟩

/-- An object that gives no record and is not refused either: what is wrong cannot be told. -/
theorem Record.decode_untold :
    let payload : Payload := .deep 1015
    (∃ members, Json.ofBytes? payload.octets = some (.object members)) ∧
      ¬ ((∃ record, Record.decode .data (some payload) = .ok record) ∨
        ∃ fault, Record.decode .data (some payload) = .error (.unread (.refused fault))) := by
  intro payload
  have hDeep : Batch.ofPayload payload = .error .tooDeep :=
    Batch.ofPayload_eq_tooDeep.mpr (Payload.hasDeepSample_deep (by decide) (by decide))
  have hDecode : Record.decode .data (some payload) = .error (.unread .tooDeep) := by
    simp only [Record.decode, Record.ofPayload, hDeep]
    rfl
  rw [hDecode]
  exact ⟨⟨_, Payload.ofBytes?_deep (by decide)⟩, by simp⟩

end TelemetryLog
