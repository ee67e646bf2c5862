import TelemetryLog.Dispatch
import TelemetryLog.Proofs.Json.Reader
import TelemetryLog.Proofs.Record.Untold
import TelemetryLog.Proofs.Table.Append

/-! What a dispatch answers. A message with a payload is answered by an outcome that says what the
payload was good for and keeps all of it that could not be read; a dispatch breaks only over a
sample that cannot be told of, and over a directory that lies too deep to be made. -/

namespace TelemetryLog

/-- A data payload that gives a row: it is a record, and its first sample has a local time. -/
def Payload.GivesRow [Host] (zone : Zone) (payload : Payload) : Prop :=
  ∃ batch time, Batch.ofPayload payload = .ok batch ∧ batch.first.time.toLocal zone = .ok time

def Payload.GivesMetadata [Host] (payload : Payload) : Prop :=
  ∃ metadata, Metadata.ofPayload payload = .ok metadata

/-- An outcome that does justice to a message with a payload. -/
inductive Outcome.Answers [Host] (zone : Zone) (identity : Identity) (topic : Value)
    (payload : Payload) : Outcome → Prop
  | unclassified (hKind : identity.kind = .unknown) :
      Answers zone identity topic payload (.unclassified topic payload.display)
  | dataHandled {names : List String} {row : Row} {tablePath writeError : Option String}
      (hKind : identity.kind = .data) (hRow : payload.GivesRow zone) :
      Answers zone identity topic payload (.dataHandled identity names row tablePath writeError)
  | metadataHandled {definitions : List (Scalar × Value)} {keys : List String}
      (hKind : identity.kind = .metadata) (hMetadata : payload.GivesMetadata) :
      Answers zone identity topic payload (.metadataHandled identity definitions keys)
  | noData (cause : String) (hKind : identity.kind = .data) (hNone : ¬ payload.GivesRow zone) :
      Answers zone identity topic payload
        (.decodeFailed identity ("JSON Parse Error (Data): " ++ cause) payload.display)
  | noMetadata (cause : String) (hKind : identity.kind = .metadata)
      (hNone : ¬ payload.GivesMetadata) :
      Answers zone identity topic payload
        (.decodeFailed identity ("JSON Parse Error (Metadata): " ++ cause) payload.display)

namespace Payload

variable [Host] {zone : Zone} {payload : Payload}

theorem not_givesRow_of_error {fault : PayloadFault} (h : Batch.ofPayload payload = .error fault) :
    ¬ payload.GivesRow zone := by
  rintro ⟨batch, time, hBatch, -⟩
  rw [h] at hBatch
  cases hBatch

theorem not_givesMetadata_of_error {fault : PayloadFault}
    (h : Metadata.ofPayload payload = .error fault) : ¬ payload.GivesMetadata := by
  rintro ⟨metadata, hMetadata⟩
  rw [h] at hMetadata
  cases hMetadata

theorem givesRow_iff {batch : Batch} (h : Batch.ofPayload payload = .ok batch) (number : Int) :
    payload.GivesRow zone ↔ ∃ written, Row.ofBatch zone batch number = .ok written := by
  simp only [GivesRow, h, Except.ok.injEq, exists_and_left, exists_eq_left', Row.ofBatch]
  cases batch.first.time.toLocal zone <;> simp [bind, Except.bind]

end Payload

namespace Payload

open Json

/-- The text of a data record with one sample, whose only value is an empty array within `n`
others. -/
def deepText (n : Nat) : List Char :=
  objectText "data".toList
    ('[' :: objectText "vals".toList (nestedText (n + 1)) ++ [']'])

def deep (n : Nat) : Payload := .text (String.ofList (deepText n))

theorem reads_deepText (n : Nat) :
    Reads (n + 5) (2 * n + 9) (deepText n)
      (.object [(.text "data", .array [.object [(.text "vals", .array [nested n])]])]) :=
  (((reads_nested (n + 1)).object rfl).array).object rfl

theorem deepText_ascii (n : Nat) : (deepText n).all Text.Utf8.isAscii = true := by
  have hSample := @objectText_ascii "vals".toList _ rfl (nestedText_ascii (n + 1))
  refine objectText_ascii rfl ?_
  simp only [List.all_append, List.all_cons, hSample]
  rfl

theorem ofBytes?_deep {n : Nat} (h : n + 5 ≤ Json.greatestDepth) :
    Json.ofBytes? (deep n).octets =
      some (.object [(.text "data", .array [.object [(.text "vals", .array [nested n])]])]) := by
  have hSteps : 2 * n + 9 ≤ 2 * (deepText n).length + 2 := by
    simp only [deepText, objectText, List.length_append, List.length_cons, length_nestedText]
    omega
  rw [deep, octets, String.toList_ofList]
  exact ofBytes?_eq_some (reads_deepText n) (deepText_ascii n) h hSteps

/-- A value that goes deeper than words do, but no deeper than texts may, cannot be told of. -/
theorem hasDeepSample_deep [Host] {n : Nat} (hDeep : Host.complaintDepth ≤ n)
    (hRead : n + 5 ≤ Json.greatestDepth) : (deep n).hasDeepSample = true := by
  have hTooDeep : ( nested n).isTooDeep Host.complaintDepth = true := isTooDeep_nested hDeep
  have hItem : Value.hasDeepItem (.array [nested n]) = true := by
    cases n <;> exact hTooDeep
  have hValues (v : Value) : field? "vals" [(.text "vals", v)] = some v := rfl
  have hData (v : Value) : field? "data" [(.text "data", v)] = some v := rfl
  rw [hasDeepSample, ofBytes?_deep hRead, Option.any_some, Value.isDeepBatch, hData]
  simp [Value.hasDeepSample, Value.isDeepSample, hValues, hItem]

end Payload

namespace Dispatcher

variable {zone : Zone} {d : Dispatcher} {tree : Tree} {identity : Identity} {payload : Payload}

theorem refusal_eq {kind : RecordKind} {fault : DecodeFault}
    (h : fault.kind = kind ∧ fault.payload = payload) :
    refusal identity fault = .decodeFailed identity
      ("JSON Parse Error (" ++ kind.label ++ "): " ++ fault.cause.message) payload.display := by
  obtain ⟨rfl, rfl⟩ := h
  rfl

section

variable [Host]

/-- A row that is there is always answered for, unless its directory lies too deep. -/
theorem writeRow_eq_error (hPath : d.tablePath.hasNul = false) {names : List String} {row : Row}
    {fault : DispatchFault} :
    (d.writeRow tree identity names row).result = .error fault ↔
      fault = .deepDirectory ∧ tree.MissesDeep d.tablePath.parent := by
  obtain ⟨hName, hDeep⟩ := @LogWriter.append_faults tree d.tablePath names row _ d.writer hPath
  rw [← hDeep, writeRow]
  split
  · simp [*]
  · exact absurd ‹_› hName
  · simp [*, eq_comm]
  · rename_i other _ hOther hResult
    have hNot : ¬ other = .tooDeep := hOther
    simp [hResult, hNot]

theorem writeRow_eq_ok {names : List String} {row : Row} {outcome : Outcome}
    (h : (d.writeRow tree identity names row).result = .ok outcome) :
    ∃ writeError,
      outcome = .dataHandled identity names row (some d.tablePath.text) writeError := by
  rw [writeRow] at h
  split at h
  · cases h
    exact ⟨_, rfl⟩
  · cases h
  · cases h
  · cases h
    exact ⟨_, rfl⟩

theorem readData_eq_error (hPath : d.tablePath.hasNul = false) {fault : DispatchFault} :
    (d.readData zone tree identity payload).result = .error fault ↔
      fault = .deepValue ∧ payload.hasDeepSample = true ∨
        fault = .deepDirectory ∧ payload.GivesRow zone ∧ tree.MissesDeep d.tablePath.parent := by
  rw [← Batch.ofPayload_eq_tooDeep, readData]
  split
  · rename_i hBatch
    simp [hBatch, Payload.not_givesRow_of_error hBatch, eq_comm]
  · rename_i hBatch
    simp [hBatch, Payload.not_givesRow_of_error hBatch]
  · rename_i batch hBatch
    rw [Payload.givesRow_iff hBatch d.counter.value]
    split
    · simp [*]
    · simp [writeRow_eq_error hPath, *]

theorem readData_answers (hKind : identity.kind = .data) (topic : Value) {outcome : Outcome}
    (h : (d.readData zone tree identity payload).result = .ok outcome) :
    outcome.Answers zone identity topic payload := by
  rw [readData] at h
  split at h
  · cases h
  · rename_i fault hBatch
    cases h
    rw [refusal_eq (decodeWith_eq_refused hBatch)]
    exact .noData _ hKind (Payload.not_givesRow_of_error hBatch)
  · rename_i batch hBatch
    have hGives := @Payload.givesRow_iff _ zone payload batch hBatch d.counter.value
    split at h
    · rename_i hRow
      cases h
      rw [refusal_eq ⟨rfl, rfl⟩]
      exact .noData _ hKind (by simp [hGives, hRow])
    · rename_i names row hRow
      obtain ⟨writeError, rfl⟩ := writeRow_eq_ok h
      exact .dataHandled hKind (hGives.mpr ⟨_, hRow⟩)

theorem readMetadata_ne_error (fault : DispatchFault) :
    readMetadata identity payload ≠ .error fault := by
  rw [readMetadata]
  split
  · exact absurd ‹_› Metadata.ofPayload_ne_tooDeep
  · simp
  · simp

theorem readMetadata_answers (hKind : identity.kind = .metadata) (topic : Value)
    {outcome : Outcome} (h : readMetadata identity payload = .ok outcome) :
    outcome.Answers zone identity topic payload := by
  rw [readMetadata] at h
  split at h
  · cases h
  · rename_i fault hMetadata
    cases h
    rw [refusal_eq (decodeWith_eq_refused hMetadata)]
    exact .noMetadata _ hKind (Payload.not_givesMetadata_of_error hMetadata)
  · rename_i metadata hMetadata
    cases h
    exact .metadataHandled hKind ⟨metadata, hMetadata⟩

/-- The dispatch of a message with a payload, on a path whose parts can all be names. It breaks only
for a data message, and then exactly when a sample cannot be told of, or when there is a row and
the directory for it lies too deep. Otherwise its outcome does justice to the message. -/
theorem dispatch_answers (zone : Zone) (d : Dispatcher) (tree : Tree) (identity : Identity)
    (topic : Value) (payload : Payload) (hKind : ∀ label, identity.kind ≠ .unsupported label)
    (hPath : d.tablePath.hasNul = false) :
    let result := (d.dispatch zone tree identity topic (some payload)).result
    (∀ fault, result = .error fault ↔ identity.kind = .data ∧
      (fault = .deepValue ∧ payload.hasDeepSample = true ∨
        fault = .deepDirectory ∧ payload.GivesRow zone ∧ tree.MissesDeep d.tablePath.parent)) ∧
      ∀ outcome, result = .ok outcome → outcome.Answers zone identity topic payload := by
  cases hIdentity : identity.kind with
  | unsupported label => exact absurd hIdentity (hKind label)
  | unknown =>
    simp only [dispatch, hIdentity]
    refine ⟨by simp, ?_⟩
    rintro outcome ⟨⟩
    exact .unclassified hIdentity
  | metadata =>
    simp only [dispatch, hIdentity]
    exact ⟨by simp [readMetadata_ne_error], fun _ h => readMetadata_answers hIdentity topic h⟩
  | data =>
    simp only [dispatch, hIdentity]
    refine ⟨fun fault => ?_, fun _ h => readData_answers hIdentity topic h⟩
    rw [readData_eq_error (d := d.count) hPath]
    simp [count]

/-- A data payload that is no JSON text is refused in the words of the reader, and comes back with
the refusal. -/
theorem dispatch_no_json (topic : Value) (hKind : identity.kind = .data)
    (hJson : Json.ofBytes? payload.octets = none) :
    (d.dispatch zone tree identity topic (some payload)).result =
      .ok (.decodeFailed identity
        ("JSON Parse Error (Data): Invalid JSON: " ++ Host.jsonComplaint payload)
        payload.display) := by
  simp only [dispatch, hKind, readData, Batch.ofPayload, decodeWith, hJson]
  rfl

/-- A data message with a value that is nested deep enough has no outcome. -/
theorem dispatch_deep {n : Nat} (hDeep : Host.complaintDepth ≤ n)
    (hRead : n + 5 ≤ Json.greatestDepth) (topic : Value) (hKind : identity.kind = .data) :
    let result := (d.dispatch zone tree identity topic (some (.deep n))).result
    result = .error .deepValue ∧ ¬ ∃ outcome, result = .ok outcome := by
  have hBatch := Batch.ofPayload_eq_tooDeep.mpr (Payload.hasDeepSample_deep hDeep hRead)
  simp [dispatch, hKind, readData, hBatch]

end

attribute [local instance] Host.usual

theorem dispatch_answers_no_json :
    let d : Dispatcher := .new (.new LogWriter.usualPath) .zero ""
    let identity : Identity := ⟨"m", "s", "t", .data⟩
    let topic : Value := .text "cs/v1/data/m/s/t"
    let outcome : Outcome := .decodeFailed identity
      "JSON Parse Error (Data): Invalid JSON: unexpected character: line 1 column 1 (char 0)"
      "record"
    (d.dispatch .universal .empty identity topic (some (.text "record"))).result = .ok outcome ∧
      outcome.Answers .universal identity topic (.text "record") := by
  intro d identity topic outcome
  have hJson : Json.ofBytes? (Payload.text "record").octets = none :=
    Option.isNone_iff_eq_none.mp (by decide +kernel)
  have hResult := @dispatch_no_json .universal d .empty identity _ _ topic rfl hJson
  have hAnswers := (dispatch_answers .universal d .empty identity topic (.text "record")
    (by simp [identity]) (by decide)).2 outcome
  exact ⟨hResult, hAnswers hResult⟩

/-- One value that is nested deep enough is enough for a dispatch to break. -/
theorem dispatch_breaks_deep_sample :
    let d : Dispatcher := .new (.new LogWriter.usualPath) .zero ""
    let identity : Identity := ⟨"m", "s", "t", .data⟩
    let result := (d.dispatch .universal .empty identity (.text "cs/v1/data/m/s/t")
      (some (.deep 1015))).result
    d.tablePath.hasNul = false ∧ result = .error .deepValue ∧ ¬ ∃ outcome, result = .ok outcome :=
  ⟨by decide, dispatch_deep (by decide) (by decide) _ rfl⟩

end Dispatcher

end TelemetryLog
