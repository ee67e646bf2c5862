import TelemetryLog.Proofs.Dispatch.Answer
import TelemetryLog.Proofs.Record.Spelling

/-! Metadata messages. `IsMetadata` is the grammar of metadata records, beside that of data records,
and `Tells` says what a value of it tells. Two levels of its objects are read by the fields that
keys spell, and a third one key by key as it stands; what a dispatch answers is what the value
tells. -/

namespace TelemetryLog

namespace Value

/-- An object that has a list for each of its keys, whatever the items. -/
def IsEntries : Value → Prop := IsObject fun entries =>
  ∀ entry ∈ entries, IsListOf (fun _ => True) entry.2

def IsDefinitions : Value → Prop := IsObject fun members =>
  MayHave members "key" (IsListOf IsText) ∧ Has members "definitions" IsEntries

def IsMetadata : Value → Prop := IsObject fun members => Has members "fields" IsDefinitions

/-- The first item of a list, and null where there is none. -/
def firstItem : Value → Value
  | .array (first :: _) => first
  | _ => .scalar .null

/-- The keys of an object as they stand and in their order, each with the first item of its list. -/
def Firsts (firsts : List (Scalar × Value)) : Value → Prop := IsObject fun entries =>
  firsts = entries.map fun (key, value) => (key, value.firstItem)

/-- What the value of a metadata record tells: the first definition for each key, and the keys that
it lists. -/
def Tells (firsts : List (Scalar × Value)) (keys : List String) : Value → Prop :=
  IsObject fun members => Has members "fields" (IsObject fun fields =>
    StandsFor fields "key" [] (Lists IsTextOf) keys ∧
      Has fields "definitions" fun value => IsEntries value ∧ Firsts firsts value)

theorem exists_firsts (value : Value) :
    (∃ firsts, IsEntries value ∧ Firsts firsts value) ↔ IsEntries value := by
  constructor
  · rintro ⟨_, hEntries, -⟩
    exact hEntries
  · rintro ⟨entries, rfl, hLists⟩
    exact ⟨_, ⟨entries, rfl, hLists⟩, entries, rfl, rfl⟩

theorem exists_tells (value : Value) :
    (∃ firsts keys, Tells firsts keys value) ↔ IsMetadata value := by
  have hKeys (fields : List (Scalar × Value)) :
      (∃ keys, StandsFor fields "key" [] (Lists IsTextOf) keys) ↔
        MayHave fields "key" (IsListOf IsText) :=
    exists_standsFor [] (exists_lists fun _ => Iff.rfl)
  constructor
  · rintro ⟨firsts, keys, members, rfl, _, hInner, fields, rfl, hListed, hDefinitions⟩
    exact ⟨members, rfl, _, hInner, fields, rfl, (hKeys fields).mp ⟨keys, hListed⟩,
      (exists_has exists_firsts).mp ⟨firsts, hDefinitions⟩⟩
  · rintro ⟨members, rfl, _, hInner, fields, rfl, hListed, hDefinitions⟩
    obtain ⟨keys, hListed⟩ := (hKeys fields).mpr hListed
    obtain ⟨firsts, hDefinitions⟩ := (exists_has exists_firsts).mpr hDefinitions
    exact ⟨firsts, keys, members, rfl, _, hInner, fields, rfl, hListed, hDefinitions⟩

end Value

open Value

/-- What is told of metadata: the first definition of each field with its name, and the keys. -/
def Metadata.Told (metadata : Metadata) (firsts : List (Scalar × Value)) (keys : List String) :
    Prop :=
  firsts = metadata.firstDefinitions.map (fun (name, first) => (.text name, first)) ∧
    keys = metadata.keys

namespace Definitions

def Describes (definitions : Definitions) : Value → Prop := IsObject fun members =>
  StandsFor members "key" [] (Lists IsTextOf) definitions.keys ∧
    Has members "definitions" (· = verbatim definitions.entries)

theorem ofValue_eq_ok {value : Value} {definitions : Definitions} :
    ofValue value = .ok definitions ↔ definitions.Describes value := by
  obtain ⟨keys, entries⟩ := definitions
  have hKeys (members : List (Scalar × Value)) (keys : List String) :
      optionalField "key" [] (toList toText) members = .ok keys ↔
        StandsFor members "key" [] (Lists IsTextOf) keys :=
    optionalField_eq_ok fun _ _ => toList_eq_ok_iff_lists fun _ _ _ _ _ => toText_eq_ok
  have hEntries (members : List (Scalar × Value)) (entries : List (String × List Value)) :
      requiredField "definitions" entriesOfValue members = .ok entries ↔
        Has members "definitions" (· = verbatim entries) :=
    requiredField_eq_ok (p := fun entries value => value = verbatim entries)
      fun _ _ => entriesOfValue_eq_ok
  simp only [ofValue, Checked.bind_eq_ok, toMembers_eq_ok, Checked.map_eq_ok, Prod.exists,
    Checked.both_eq_ok, mk.injEq, hKeys, hEntries]
  constructor
  · rintro ⟨members, rfl, _, _, ⟨hListed, hDefinitions⟩, rfl, rfl⟩
    exact ⟨members, rfl, hListed, hDefinitions⟩
  · rintro ⟨members, rfl, hListed, hDefinitions⟩
    exact ⟨members, rfl, _, _, ⟨hListed, hDefinitions⟩, rfl, rfl⟩

/-- Among objects whose keys are texts, those that give entries are those with a list for each
key. -/
theorem exists_verbatim {value : Value} (h : Json.IsKeyed value) :
    (∃ entries, value = verbatim entries) ↔ IsEntries value := by
  constructor
  · rintro ⟨entries, rfl⟩
    refine ⟨_, rfl, fun entry hEntry => ?_⟩
    obtain ⟨⟨name, items⟩, -, rfl⟩ := List.mem_map.mp hEntry
    exact ⟨items, rfl, by simp⟩
  · rintro ⟨members, rfl, hLists⟩
    cases h with
    | object hKeys _ =>
      have hEntry : ∀ member ∈ members, ∃ entry : String × List Value,
          member = (.text entry.1, .array entry.2) := by
        rintro ⟨key, value⟩ hMember
        obtain ⟨name, rfl⟩ := hKeys.texts _ (List.mem_map_of_mem hMember)
        obtain ⟨items, rfl, -⟩ := hLists _ hMember
        exact ⟨(name, items), rfl⟩
      obtain ⟨entries, hEntries⟩ := exists_forall₂.mpr hEntry
      refine ⟨entries, ?_⟩
      rw [verbatim, object.injEq, ← List.forall₂_eq_eq_eq, List.forall₂_map_right_iff]
      exact hEntries

theorem firsts_verbatim {entries : List (String × List Value)} {firsts : List (Scalar × Value)} :
    Firsts firsts (verbatim entries) ↔
      firsts = entries.map fun (name, values) => (.text name, values.headD (.scalar .null)) := by
  have hFirst (values : List Value) : firstItem (.array values) = values.headD (.scalar .null) := by
    cases values <;> rfl
  simp [Firsts, IsObject, verbatim, Function.comp_def, hFirst]

end Definitions

namespace Metadata

theorem ofValue_eq_ok {value : Value} {metadata : Metadata} :
    ofValue value = .ok metadata ↔
      IsObject (Has · "fields" metadata.definitions.Describes) value := by
  obtain ⟨definitions⟩ := metadata
  have hFields (members : List (Scalar × Value)) (definitions : Definitions) :
      requiredField "fields" Definitions.ofValue members = .ok definitions ↔
        Has members "fields" definitions.Describes :=
    requiredField_eq_ok fun _ _ => Definitions.ofValue_eq_ok
  simp only [ofValue, Checked.bind_eq_ok, toMembers_eq_ok, Checked.map_eq_ok, mk.injEq, hFields]
  constructor
  · rintro ⟨members, rfl, _, hDefinitions, rfl⟩
    exact ⟨members, rfl, hDefinitions⟩
  · rintro ⟨members, rfl, hDefinitions⟩
    exact ⟨members, rfl, _, hDefinitions, rfl⟩

theorem ofValue_told {value : Value} (h : Json.IsKeyed value) {firsts : List (Scalar × Value)}
    {keys : List String} :
    (∃ metadata, ofValue value = .ok metadata ∧ metadata.Told firsts keys) ↔
      Tells firsts keys value := by
  simp only [ofValue_eq_ok]
  constructor
  · rintro ⟨metadata, ⟨members, rfl, _, hInner, fields, rfl, hListed, _, hField, rfl⟩, rfl, rfl⟩
    have hKeyed := isKeyed_field? (isKeyed_field? h hInner) hField
    refine ⟨members, rfl, _, hInner, fields, rfl, hListed, _, hField, ?_, ?_⟩
    · exact (Definitions.exists_verbatim hKeyed).mp ⟨_, rfl⟩
    · rw [Definitions.firsts_verbatim, firstDefinitions, List.map_map]
      rfl
  · rintro ⟨members, rfl, _, hInner, fields, rfl, hListed, _, hField, hEntries, hFirsts⟩
    have hKeyed := isKeyed_field? (isKeyed_field? h hInner) hField
    obtain ⟨entries, rfl⟩ := (Definitions.exists_verbatim hKeyed).mpr hEntries
    refine ⟨⟨keys, entries⟩, ⟨members, rfl, _, hInner, fields, rfl, hListed, _, hField, rfl⟩, ?_,
      rfl⟩
    rw [Definitions.firsts_verbatim.mp hFirsts, firstDefinitions, List.map_map]
    rfl

end Metadata

namespace Dispatcher

variable {identity : Identity} {payload : Payload} {members : List (Scalar × Value)}

theorem readMetadata_eq_handled [Host]
    (hRead : Json.ofBytes? payload.octets = some (.object members))
    {named : Identity} {firsts : List (Scalar × Value)} {keys : List String} :
    readMetadata identity payload = .ok (.metadataHandled named firsts keys) ↔
      named = identity ∧ Tells firsts keys (.object members) := by
  rw [← Metadata.ofValue_told (Json.isKeyed_ofBytes? hRead)]
  have hOfPayload (metadata : Metadata) : Metadata.ofPayload payload = .ok metadata ↔
      Metadata.ofValue (.object members) = .ok metadata := by
    rw [Metadata.ofPayload, decodeWith_eq_ok]
    simp [hRead]
  simp only [← hOfPayload, readMetadata]
  cases Metadata.ofPayload payload with
  | error fault => cases fault <;> simp [refusal]
  | ok metadata => simp [Metadata.Told, eq_comm]

/-- The keys that are told are those of an object: texts, each of them once. -/
theorem areKeys_of_tells {value : Value} (h : Json.IsKeyed value)
    {firsts : List (Scalar × Value)} {keys : List String} (hTells : Tells firsts keys value) :
    Json.AreKeys (firsts.map Prod.fst) := by
  obtain ⟨members, rfl, _, hInner, fields, rfl, -, _, hField, -, entries, rfl, rfl⟩ := hTells
  cases isKeyed_field? (isKeyed_field? h hInner) hField with
  | object hKeys _ =>
    rw [List.map_map]
    exact hKeys

/-- A message with an object for its payload, on a topic of metadata, has an outcome and changes
nothing. It is handled exactly when the object is of the grammar; it is then told what the value
tells, where each key of the definitions stands once and as it is spelled. -/
theorem dispatch_tells [Host] (zone : Zone) (d : Dispatcher) (tree : Tree) {topic : String}
    {payload : Payload} {members : List (Scalar × Value)}
    (hTopic : (Identity.classify (.text topic)).kind = .metadata)
    (hRead : Json.ofBytes? payload.octets = some (.object members)) :
    let identity := Identity.classify (.text topic)
    let done := d.dispatch zone tree identity (.text topic) (some payload)
    (∃ outcome, done.result = .ok outcome) ∧ done.tree = tree ∧ done.dispatcher = d ∧
    ((∃ named firsts keys, done.result = .ok (.metadataHandled named firsts keys)) ↔
      IsMetadata (.object members)) ∧
    ∀ named firsts keys, done.result = .ok (.metadataHandled named firsts keys) ↔
      named = identity ∧ Tells firsts keys (.object members) ∧
        Json.AreKeys (firsts.map Prod.fst) := by
  intro identity done
  have hDone : done = ⟨tree, d, [], readMetadata identity payload⟩ := by
    simp only [done, dispatch, identity, hTopic]
  have hHandled (named : Identity) (firsts : List (Scalar × Value)) (keys : List String) :
      done.result = .ok (.metadataHandled named firsts keys) ↔
        named = identity ∧ Tells firsts keys (.object members) := by
    rw [hDone]
    exact readMetadata_eq_handled hRead
  refine ⟨?_, by rw [hDone], by rw [hDone], ?_, fun named firsts keys => ?_⟩
  · rw [hDone]
    cases hResult : readMetadata identity payload with
    | error fault => exact absurd hResult (readMetadata_ne_error fault)
    | ok outcome => exact ⟨outcome, rfl⟩
  · simp only [hHandled, ← exists_tells]
    constructor
    · rintro ⟨_, firsts, keys, -, hTells⟩
      exact ⟨firsts, keys, hTells⟩
    · rintro ⟨firsts, keys, hTells⟩
      exact ⟨identity, firsts, keys, rfl, hTells⟩
  · rw [hHandled]
    refine and_congr_right fun _ => ⟨fun hTells => ⟨hTells, ?_⟩, And.left⟩
    exact areKeys_of_tells (Json.isKeyed_ofBytes? hRead) hTells

attribute [local instance] Host.usual

/-- Keys that are alike but for their spelling are told apart, a list without items is told as null,
and a definition is told as it stands, with the keys of the objects in it. -/
theorem dispatch_tells_verbatim :
    let topic := "cs/v1/metadata/m/s/t"
    let payload : Payload := .text ("\x7b\"Fields\":\x7b\"KEY\":[\"B\",\"A\"],\"defi-nitions\":" ++
      "\x7b\"Batt_V\":[\x7b\"Key\":1\x7d,2],\"battv\":[]\x7d\x7d\x7d")
    let d := Dispatcher.new (.new LogWriter.usualPath) .zero ""
    let done := d.dispatch .universal .empty (Identity.classify (.text topic)) (.text topic)
      (some payload)
    done.result = .ok (.metadataHandled ⟨"m", "s", "t", .metadata⟩
      [(.text "Batt_V", .object [(.text "Key", .scalar (.int 1))]),
        (.text "battv", .scalar .null)] ["B", "A"]) := by
  intro topic payload d done
  let definitions : Value := .object [
    (.text "Batt_V", .array [.object [(.text "Key", .scalar (.int 1))], .scalar (.int 2)]),
    (.text "battv", .array [])]
  let fields := [(Scalar.text "KEY", Value.array [.text "B", .text "A"]),
    (.text "defi-nitions", definitions)]
  have hTopic : Identity.classify (.text topic) = ⟨"m", "s", "t", .metadata⟩ := by decide +kernel
  have hRead : Json.ofBytes? payload.octets =
      some (.object [(.text "Fields", .object fields)]) := by decide +kernel
  obtain ⟨-, -, -, -, hHandled⟩ :=
    dispatch_tells .universal d .empty (congrArg Identity.kind hTopic) hRead
  have hFields : field? "fields" [(.text "Fields", .object fields)] = some (.object fields) := by
    decide +kernel
  have hDefinitions : field? "definitions" fields = some definitions := by decide +kernel
  have hListed : field? "key" fields = some (.array [.text "B", .text "A"]) := by decide +kernel
  have hKeys : StandsFor fields "key" [] (Lists IsTextOf) ["B", "A"] := by
    rw [StandsFor, hListed]
    exact ⟨_, rfl, .cons rfl (.cons rfl .nil)⟩
  have hEntries : IsEntries definitions := by
    refine ⟨_, rfl, ?_⟩
    simp [IsListOf]
  refine (hHandled _ _ _).mpr ⟨hTopic.symm, ?_, by simp, by decide⟩
  exact ⟨_, rfl, _, hFields, _, rfl, hKeys, _, hDefinitions, hEntries, _, rfl, rfl⟩

end Dispatcher

end TelemetryLog
