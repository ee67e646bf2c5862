import TelemetryLog.Proofs.Text.Split
import TelemetryLog.Topic

/-! Topics and the identities that they name. A topic names an identity exactly when it is the
identity's own topic and the segments of the identity are segments of topics; so at most one
identity is named, and it gives the topic back. -/

namespace TelemetryLog

/-- What can stand between two slashes of a topic: anything but nothing, and but a slash. -/
def IsSegment (s : String) : Prop := s ≠ "" ∧ '/' ∉ s.toList

instance (s : String) : Decidable (IsSegment s) := by unfold IsSegment; infer_instance

theorem isSegment_ofList {s : List Char} (hSome : s ≠ []) (hSlash : '/' ∉ s) :
    IsSegment (String.ofList s) := by
  refine ⟨fun hEmpty => hSome ?_, by rwa [String.toList_ofList]⟩
  rw [← String.toList_ofList (l := s), hEmpty]
  rfl

theorem IsSegment.toList_ne_nil {s : String} (h : IsSegment s) : s.toList ≠ [] :=
  fun hEmpty => h.1 (String.toList_injective hEmpty)

/-- The segment that announces the records of a kind; only two kinds of records have topics. -/
def RecordKind.segment? : RecordKind → Option String
  | .data => some "data"
  | .metadata => some "metadata"
  | .unknown | .unsupported _ => none

namespace Identity

/-- The topic that an identity publishes on, if its kind has topics. -/
def topic? (identity : Identity) : Option String :=
  identity.kind.segment?.map fun segment =>
    "cs/v1/" ++ segment ++ "/" ++ identity.model ++ "/" ++ identity.serial ++ "/" ++ identity.table

/-- A topic is of the shape that names an identity. -/
structure IsNamedBy (identity : Identity) (topic : String) : Prop where
  topic : identity.topic? = some topic
  model : IsSegment identity.model
  serial : IsSegment identity.serial
  table : IsSegment identity.table

theorem kindOfSegment?_eq_some {k : List Char} {kind : RecordKind} :
    kindOfSegment? k = some kind ↔ kind.segment? = some (String.ofList k) := by
  have hWord (word : String) : word = String.ofList k ↔ k = word.toList := by
    rw [← String.toList_inj, String.toList_ofList, eq_comm]
  rw [kindOfSegment?]
  cases kind with
  | data | metadata =>
    rw [RecordKind.segment?, Option.some_inj, hWord]
    by_cases hData : k = "data".toList
    · simp [hData]
    · by_cases hMetadata : k = "metadata".toList
      · simp [hMetadata]
      · rw [if_neg hData, if_neg hMetadata]
        exact ⟨nofun, fun hWord => absurd hWord ‹_›⟩
  | unknown | unsupported =>
    rw [RecordKind.segment?]
    repeat' split
    all_goals simp

theorem topic?_eq_some {identity : Identity} {topic : String} :
    identity.topic? = some topic ↔ ∃ segment, identity.kind.segment? = some segment ∧
      topic.toList = Text.joinWith ['/'] ["cs".toList, "v1".toList, segment.toList,
        identity.model.toList, identity.serial.toList, identity.table.toList] := by
  rw [topic?, Option.map_eq_some_iff]
  refine exists_congr fun segment => and_congr_right fun _ => ?_
  rw [← String.toList_inj, eq_comm]
  simp [Text.joinWith]

/-- A topic is taken for an identity that it names, or for none. -/
theorem ofTopic_cases (topic : String) :
    ofTopic topic = .unknown ∨ (ofTopic topic).IsNamedBy topic := by
  have hJoin := Text.joinWith_splitAt '/' topic.toList
  rw [ofTopic]
  unfold ofSegments
  split
  · rename_i c v k m s t hSegments
    split
    · rename_i kind hSegment
      split
      · rename_i hShape
        obtain ⟨rfl, rfl, hModel, hSerial, hTable⟩ := hShape
        have hSlash {piece : List Char}
            (hPiece : piece ∈ ["cs".toList, "v1".toList, k, m, s, t]) : '/' ∉ piece :=
          Text.not_mem_of_mem_splitAt (hSegments ▸ hPiece)
        refine .inr ⟨topic?_eq_some.mpr ⟨_, kindOfSegment?_eq_some.mp hSegment, ?_⟩,
          isSegment_ofList hModel (hSlash (by simp)), isSegment_ofList hSerial (hSlash (by simp)),
          isSegment_ofList hTable (hSlash (by simp))⟩
        simp only [String.toList_ofList]
        rw [← hSegments, hJoin]
      · exact .inl rfl
    · exact .inl rfl
  · exact .inl rfl

/-- A topic of the shape that names an identity is taken for it. -/
theorem IsNamedBy.ofTopic_eq {topic : String} {named : Identity} (h : named.IsNamedBy topic) :
    ofTopic topic = named := by
  obtain ⟨segment, hKind, hTopic⟩ := topic?_eq_some.mp h.topic
  obtain ⟨model, serial, table, kind⟩ := named
  have hSlash : '/' ∉ segment.toList := by
    cases kind <;> cases hKind <;> decide
  have hSegment : kindOfSegment? segment.toList = some kind := by
    rw [kindOfSegment?_eq_some, String.ofList_toList]
    exact hKind
  have hPieces : ∀ piece ∈ ["cs".toList, "v1".toList, segment.toList, model.toList,
      serial.toList, table.toList], '/' ∉ piece := by
    simp only [List.forall_mem_cons]
    exact ⟨by decide, by decide, hSlash, h.model.2, h.serial.2, h.table.2, by simp⟩
  rw [ofTopic, hTopic, Text.splitAt_joinWith (by simp) hPieces, ofSegments, hSegment]
  have hShape : model.toList ≠ [] ∧ serial.toList ≠ [] ∧ table.toList ≠ [] :=
    ⟨h.model.toList_ne_nil, h.serial.toList_ne_nil, h.table.toList_ne_nil⟩
  simp [hShape]

theorem IsNamedBy.isKnown {topic : String} {named : Identity} (h : named.IsNamedBy topic) :
    named.isKnown = true := by
  obtain ⟨segment, hKind, -⟩ := topic?_eq_some.mp h.topic
  cases hUnknown : named.kind with
  | unknown => simp [hUnknown, RecordKind.segment?] at hKind
  | _ => simp [Identity.isKnown, hUnknown]

theorem classify_text (topic : String) : classify (.text topic) = ofTopic topic := rfl

/-- A topic is taken for a known identity exactly when it is of the shape that names it, and for
none otherwise. It names one identity at most, which gives it back, and no other topic does. -/
theorem classify_grammar (topic : String) :
    (∀ named : Identity, classify (.text topic) = named ∧ named.isKnown = true ↔
      named.IsNamedBy topic) ∧
    (classify (.text topic) = .unknown ↔ ¬ ∃ named : Identity, named.IsNamedBy topic) ∧
    (∀ named named' : Identity,
      named.IsNamedBy topic → named'.IsNamedBy topic → named = named') ∧
    ((classify (.text topic)).isKnown = true → (classify (.text topic)).topic? = some topic ∧
      ∀ topic' : String, classify (.text topic') = classify (.text topic) → topic' = topic) := by
  have hNamed (named : Identity) :
      classify (.text topic) = named ∧ named.isKnown = true ↔ named.IsNamedBy topic := by
    constructor
    · rintro ⟨rfl, hKnown⟩
      rcases ofTopic_cases topic with hUnknown | hNamed
      · rw [classify_text, hUnknown] at hKnown
        cases hKnown
      · exact hNamed
    · intro h
      exact ⟨h.ofTopic_eq, h.isKnown⟩
  refine ⟨hNamed, ?_, ?_, ?_⟩
  · constructor
    · rintro hUnknown ⟨named, h⟩
      obtain ⟨hClassify, hKnown⟩ := (hNamed named).mpr h
      rw [← hClassify, hUnknown] at hKnown
      cases hKnown
    · intro hNone
      exact (ofTopic_cases topic).resolve_right fun h => hNone ⟨_, h⟩
  · intro named named' h h'
    exact h.ofTopic_eq.symm.trans h'.ofTopic_eq
  · intro hKnown
    have h := ((hNamed _).mp ⟨rfl, hKnown⟩).topic
    refine ⟨h, fun topic' hAlike => ?_⟩
    have h' : (classify (.text topic')).IsNamedBy topic' := by
      refine (ofTopic_cases topic').resolve_left fun hUnknown => ?_
      rw [← hAlike, classify_text, hUnknown] at hKnown
      cases hKnown
    exact Option.some_inj.mp (h'.topic.symm.trans (hAlike ▸ h))

/-- A line break is as good as any other character, also at the end. -/
theorem classify_grammar_lineBreak :
    let named : Identity := ⟨"CR310", " 12\n", "Table1\n", .metadata⟩
    let topic := "cs/v1/metadata/CR310/ 12\n/Table1\n"
    named.IsNamedBy topic ∧ classify (.text topic) = named ∧ named.topic? = some topic ∧
      ∀ topic' : String, classify (.text topic') = named → topic' = topic := by
  intro named topic
  obtain ⟨hNamed, -, -, hBack⟩ := classify_grammar topic
  have h : named.IsNamedBy topic := ⟨rfl, by decide, by decide, by decide⟩
  obtain ⟨hClassify, hKnown⟩ := (hNamed named).mpr h
  rw [hClassify] at hBack
  exact ⟨h, hClassify, hBack hKnown⟩

end Identity

end TelemetryLog
