import TelemetryLog.Proofs.Json.Written
import TelemetryLog.Proofs.Record.Reasons

/-! What is wrong with a value, and where. `Violated` says what violates the content that is
expected of a value, and `Precedes` in which order the places within a value come. What is said to
be wrong when a value is read is all that violates its content, in that order, and what is said of a
part is what is said of it when it is read alone. -/

namespace TelemetryLog

/-- What violates the content that is expected of a value: a complaint about the value on the whole,
a field that is missing, or what violates the content of a part when it is read alone. -/
inductive Violated : Content → Value → Violation → Prop
  | whole {content : Content} {value : Value} {c : Complaint}
      (h : content.complaint? value = some c) : Violated content value ⟨[], c⟩
  | missing {content : Content} {value : Value} {step : Step}
      (h : (step, .missing) ∈ content.parts value) : Violated content value ⟨[step], .missing⟩
  | part {content inner : Content} {value part : Value} {step : Step} {v : Violation}
      (hPart : (step, .holds inner part) ∈ content.parts value) (h : Violated inner part v) :
      Violated content value (v.below [step])

/-- What is expected of the part of a value at a place: the value itself, a part of it, or a part of
a part. -/
inductive PartAt : Content → Value → List Step → Content → Value → Prop
  | whole (content : Content) (value : Value) : PartAt content value [] content value
  | part {content inner last : Content} {value part found : Value} {step : Step}
      {place : List Step} (hPart : (step, .holds inner part) ∈ content.parts value)
      (h : PartAt inner part place last found) : PartAt content value (step :: place) last found

/-- One place within a value comes before another one: it is in an earlier part, or earlier in the
same part. -/
inductive Precedes : Content → Value → List Step → List Step → Prop
  | apart {content : Content} {value : Value} {step step' : Step} {part part' : Part}
      (h : [(step, part), (step', part')].Sublist (content.parts value))
      (place place' : List Step) : Precedes content value (step :: place) (step' :: place')
  | part {content inner : Content} {value part : Value} {step : Step} {place place' : List Step}
      (hPart : (step, .holds inner part) ∈ content.parts value)
      (h : Precedes inner part place place') :
      Precedes content value (step :: place) (step :: place')

/-- A value that stands in another one: an item of a list, or the value of a member of an object. -/
inductive Value.IsIn : Value → Value → Prop
  | item {items : List Value} {value : Value} (h : value ∈ items) : IsIn value (.array items)
  | member {members : List (Scalar × Value)} {member : Scalar × Value} (h : member ∈ members) :
      IsIn member.2 (.object members)

namespace Value.IsIn

variable {value whole : Value}

theorem isReadable (h : value.IsIn whole) (hWhole : Json.IsReadable whole) :
    Json.IsReadable value := by
  obtain ⟨hRange, hKeyed⟩ := hWhole
  cases h with
  | item h =>
    cases hRange with
    | array hRange =>
      cases hKeyed with
      | array hKeyed => exact ⟨hRange _ h, hKeyed _ h⟩
  | member h =>
    cases hRange with
    | object hRange =>
      cases hKeyed with
      | object _ hKeyed => exact ⟨hRange _ h, hKeyed _ h⟩

end Value.IsIn

section Parts

variable {content inner : Content} {value part : Value} {step : Step}

theorem Rule.part?_eq_some {rule : Rule} {members : List (Scalar × Value)} {part : Part} :
    rule.part? members = some (step, part) ↔ step = .field rule.name ∧
      ((∃ value, field? rule.name members = some value ∧ part = .holds rule.content value) ∨
        field? rule.name members = none ∧ rule.isRequired = true ∧ part = .missing) := by
  rw [Rule.part?]
  cases field? rule.name members with
  | none => cases rule.isRequired <;> simp [eq_comm (a := step), eq_comm (a := part)]
  | some value => simp [eq_comm (a := step), eq_comm (a := part)]

/-- A field that is there is a part of which its content is expected. -/
theorem mem_fieldParts {form : Form} {rule : Rule} {members : List (Scalar × Value)} {value : Value}
    (hRule : rule ∈ form.rules) (hField : field? rule.name members = some value) :
    (.field rule.name, .holds rule.content value) ∈
      (Content.record form).parts (.object members) :=
  List.mem_filterMap.mpr ⟨rule, hRule, Rule.part?_eq_some.mpr ⟨rfl, .inl ⟨value, hField, rfl⟩⟩⟩

theorem mem_itemParts {content : Content} {items : List Value} {part : Part} :
    (step, part) ∈ itemParts content items ↔
      ∃ i item, items[i]? = some item ∧ step = .item i ∧ part = .holds content item := by
  simp only [itemParts, List.mem_mapIdx, Prod.mk.injEq, List.getElem?_eq_some_iff]
  constructor
  · rintro ⟨i, hi, rfl, rfl⟩
    exact ⟨i, items[i], ⟨hi, rfl⟩, rfl, rfl⟩
  · rintro ⟨i, item, ⟨hi, rfl⟩, rfl, rfl⟩
    exact ⟨i, hi, rfl, rfl⟩

/-- What the parts of a value can be. -/
inductive IsPartList : Value → List (Step × Part) → Prop
  | none (value : Value) : IsPartList value []
  | fields (form : Form) (members : List (Scalar × Value)) :
      IsPartList (.object members) (form.rules.filterMap (·.part? members))
  | items (content : Content) (items : List Value) :
      IsPartList (.array items) (itemParts content items)
  | entries (members : List (Scalar × Value)) :
      IsPartList (.object members)
        (members.map fun (key, value) => (.member key, .holds .list value))

theorem isPartList_parts (content : Content) (value : Value) :
    IsPartList value (content.parts value) := by
  induction content with
  | record form =>
    cases value with
    | scalar | array => exact .none _
    | object members => exact .fields form members
  | orNull content ih =>
    by_cases hNull : value = .scalar .null
    · rw [hNull]
      exact .none _
    · rw [Content.parts_orNull hNull]
      exact ih
  | listOf content =>
    cases value with
    | scalar | object => exact .none _
    | array items => exact .items content items
  | samples =>
    cases value with
    | scalar | object => exact .none _
    | array items => exact .items (.record .sample) items
  | entries =>
    cases value with
    | scalar | array => exact .none _
    | object members => exact .entries members
  | text | truth | integer | time | numbers | list => cases value <;> exact .none _

/-- The parts of a value stand in it. -/
theorem IsPartList.isIn {parts : List (Step × Part)} (hParts : IsPartList value parts)
    (h : (step, .holds inner part) ∈ parts) : part.IsIn value := by
  cases hParts with
  | none => cases h
  | fields form members =>
    obtain ⟨rule, -, hPart⟩ := List.mem_filterMap.mp h
    obtain ⟨-, ⟨_, hField, ⟨⟩⟩ | ⟨-, -, ⟨⟩⟩⟩ := Rule.part?_eq_some.mp hPart
    obtain ⟨member, hMember, rfl⟩ := mem_of_field? hField
    exact .member hMember
  | items content items =>
    obtain ⟨i, item, hItem, -, ⟨⟩⟩ := mem_itemParts.mp h
    exact .item (List.mem_of_getElem? hItem)
  | entries members =>
    obtain ⟨member, hMember, ⟨⟩⟩ := List.mem_map.mp h
    exact .member hMember

theorem isIn_of_parts (h : (step, .holds inner part) ∈ content.parts value) : part.IsIn value :=
  (isPartList_parts content value).isIn h

/-- A property of all values and all that can be expected of them, from the parts of a value to the
value itself. -/
@[elab_as_elim]
theorem parts_induction {p : Content → Value → Prop}
    (h : ∀ content value, (∀ step inner part, (step, .holds inner part) ∈ content.parts value →
      p inner part) → p content value) (content : Content) (value : Value) : p content value := by
  induction value using Value.induction generalizing content with
  | scalar s =>
    refine h content _ fun step inner part hPart => ?_
    cases isIn_of_parts hPart
  | array items ih =>
    refine h content _ fun step inner part hPart => ?_
    cases isIn_of_parts hPart with
    | item hItem => exact ih _ hItem inner
  | object members ih =>
    refine h content _ fun step inner part hPart => ?_
    cases isIn_of_parts hPart with
    | member hMember => exact ih _ hMember inner

/-- A value that is not as expected on the whole has no parts that count. -/
theorem parts_eq_nil {c : Complaint} (h : content.complaint? value = some c) :
    content.parts value = [] := by
  induction content with
  | record | list | listOf | entries => cases value <;> first | rfl | cases h
  | text | truth | integer | time | numbers => cases value <;> rfl
  | samples =>
    cases value with
    | scalar | object => rfl
    | array items =>
      cases items with
      | nil => rfl
      | cons => cases h
  | orNull content ih =>
    by_cases hNull : value = .scalar .null
    · subst hNull
      rfl
    · rw [Content.complaint?_orNull hNull] at h
      rw [Content.parts_orNull hNull]
      exact ih h

theorem nodup_itemSteps (content : Content) (items : List Value) :
    ((itemParts content items).map Prod.fst).Nodup := by
  have hSteps : (itemParts content items).map Prod.fst =
      (List.range' 0 items.length).map Step.item := by
    rw [itemParts, List.mapIdx_eq_zipIdx_map, List.map_map, ← List.zipIdx_map_snd, List.map_map]
    rfl
  rw [hSteps]
  exact (List.nodup_range' 1).map fun _ _ => Step.item.inj

theorem fieldSteps_sublist (rules : List Rule) (members : List (Scalar × Value)) :
    ((rules.filterMap (·.part? members)).map Prod.fst).Sublist
      (rules.map fun rule => .field rule.name) := by
  induction rules with
  | nil => exact .slnil
  | cons rule rules ih =>
    rw [List.filterMap_cons]
    cases hPart : rule.part? members with
    | none => exact ih.cons _
    | some part =>
      obtain ⟨hStep, -⟩ := Rule.part?_eq_some.mp hPart
      rw [List.map_cons, List.map_cons, hStep]
      exact ih.cons_cons _

/-- The parts of a value lie at different places. -/
theorem IsPartList.nodup_steps {parts : List (Step × Part)} (h : IsPartList value parts)
    (hKeyed : Json.IsKeyed value) : (parts.map Prod.fst).Nodup := by
  cases h with
  | none => exact .nil
  | fields form members =>
    refine (fieldSteps_sublist form.rules members).nodup ?_
    cases form <;> decide
  | items content items => exact nodup_itemSteps content items
  | entries members =>
    cases hKeyed with
    | object hKeys _ =>
      have hSteps := hKeys.distinct.map (f := Step.member) fun _ _ => Step.member.inj
      rw [List.map_map] at hSteps ⊢
      exact hSteps

end Parts

section Readings

variable {content inner : Content} {value part : Value} {place : List Step}

theorem mem_partViolations {parts : List (Step × Part)} {v : Violation} :
    v ∈ partViolations parts ↔
      ∃ step part, (step, part) ∈ parts ∧ ∃ w ∈ part.violations, v = w.below [step] := by
  simp only [partViolations, List.mem_flatMap, List.mem_map, Prod.exists, eq_comm]

theorem violations_of_complaint (h : Json.IsReadable value) {c : Complaint}
    (hWhole : content.complaint? value = some c) : (content.read value).violations = [⟨[], c⟩] := by
  rw [content.violations_read h, parts_eq_nil hWhole, hWhole]
  rfl

theorem violations_of_parts (h : Json.IsReadable value)
    (hWhole : content.complaint? value = none) :
    (content.read value).violations = partViolations (content.parts value) := by
  rw [content.violations_read h, hWhole]
  rfl

/-- All that is said to be wrong with a value violates what is expected of it, and the other way
around. -/
theorem mem_violations_iff (h : Json.IsReadable value) {v : Violation} :
    v ∈ (content.read value).violations ↔ Violated content value v := by
  induction content, value using parts_induction generalizing v with
  | h content value ih =>
    rw [content.violations_read h, List.mem_append, mem_partViolations]
    constructor
    · rintro (hWhole | ⟨step, part, hPart, w, hw, rfl⟩)
      · obtain ⟨c, hc, rfl⟩ := List.mem_map.mp hWhole
        exact .whole (Option.mem_toList.mp hc)
      · cases part with
        | missing =>
          obtain rfl := List.mem_singleton.mp hw
          exact .missing hPart
        | holds inner part =>
          have hInner := (isIn_of_parts hPart).isReadable h
          exact .part hPart ((ih step inner part hPart hInner).mp hw)
    · intro hViolated
      cases hViolated with
      | whole hWhole => exact .inl (List.mem_map.mpr ⟨_, Option.mem_toList.mpr hWhole, rfl⟩)
      | missing hPart => exact .inr ⟨_, _, hPart, _, List.mem_singleton_self _, rfl⟩
      | @part _ inner _ part step v hPart hInner =>
        have hReadable := (isIn_of_parts hPart).isReadable h
        exact .inr ⟨_, _, hPart, v, (ih step inner part hPart hReadable).mpr hInner, rfl⟩

/-- The violations come in the order of their places. -/
theorem pairwise_violations (h : Json.IsReadable value) (content : Content) :
    (content.read value).violations.Pairwise fun v w =>
      Precedes content value v.place w.place := by
  induction content, value using parts_induction with
  | h content value ih =>
    cases hWhole : content.complaint? value with
    | some c =>
      rw [violations_of_complaint h hWhole]
      exact List.pairwise_singleton _ _
    | none =>
      -- Within a part the order is the part's own; parts keep the order in which they are read.
      rw [violations_of_parts h hWhole, partViolations, List.pairwise_flatMap]
      constructor
      · rintro ⟨step, part⟩ hPart
        rw [List.pairwise_map]
        cases part with
        | missing => exact List.pairwise_singleton _ _
        | holds inner part =>
          have hInner := ih step inner part hPart ((isIn_of_parts hPart).isReadable h)
          exact hInner.imp fun hBefore => .part hPart hBefore
      · rw [List.pairwise_iff_forall_sublist]
        rintro ⟨step, part⟩ ⟨step', part'⟩ hBoth v hv w hw
        obtain ⟨v, -, rfl⟩ := List.mem_map.mp hv
        obtain ⟨w, -, rfl⟩ := List.mem_map.mp hw
        exact .apart hBoth _ _

/-- Of two places, one before the other, neither lies below the other. -/
theorem Precedes.not_prefix {place' : List Step} (h : Precedes content value place place')
    (hReadable : Json.IsReadable value) : ¬ place <+: place' ∧ ¬ place' <+: place := by
  induction h with
  | @apart content value step step' part part' hBoth place place' =>
    have hSteps := (hBoth.map Prod.fst).nodup
      ((isPartList_parts content value).nodup_steps hReadable.isKeyed)
    have hNe : step ≠ step' := by simpa using hSteps
    simp [List.cons_prefix_cons, hNe, hNe.symm]
  | part hPart _ ih =>
    simpa [List.cons_prefix_cons] using ih ((isIn_of_parts hPart).isReadable hReadable)

/-- Below the place of a part is what is wrong with the part. -/
theorem filter_partViolations {parts : List (Step × Part)} {step : Step} {part : Part}
    (hSteps : (parts.map Prod.fst).Nodup) (hPart : (step, part) ∈ parts) (place : List Step) :
    (partViolations parts).filter (fun v => step :: place <+: v.place) =
      (part.violations.filter fun v => place <+: v.place).map (.below [step]) := by
  obtain ⟨before, after, rfl⟩ := List.append_of_mem hPart
  -- Every other part lies at another step, so nothing of it is kept.
  have hOthers {others : List (Step × Part)} (hOther : step ∉ others.map Prod.fst) :
      (partViolations others).filter (fun v => step :: place <+: v.place) = [] := by
    rw [List.filter_eq_nil_iff]
    intro v hv
    obtain ⟨other, _, hMem, w, -, rfl⟩ := mem_partViolations.mp hv
    have hNe : step ≠ other := by
      rintro rfl
      exact hOther (List.mem_map_of_mem hMem)
    simp [Violation.below, List.cons_prefix_cons, hNe]
  rw [List.map_append, List.map_cons, List.nodup_middle, List.nodup_cons, List.mem_append,
    not_or] at hSteps
  have hParts : partViolations (before ++ (step, part) :: after) = partViolations before ++
      (part.violations.map (Violation.below [step]) ++ partViolations after) := by
    simp [partViolations]
  rw [hParts, List.filter_append, List.filter_append, hOthers hSteps.1.1, hOthers hSteps.1.2,
    List.nil_append, List.append_nil, List.filter_map]
  congr 2
  funext v
  simp [Violation.below, List.cons_prefix_cons]

/-- What is wrong at a place or below it is what is wrong with the part there when it is read
alone. -/
theorem filter_violations (h : Json.IsReadable value)
    (hPart : PartAt content value place inner part) :
    (content.read value).violations.filter (fun v => place <+: v.place) =
      (inner.read part).violations.map (.below place) := by
  induction hPart with
  | whole content value =>
    have hBelow : Violation.below [] = id := rfl
    simp [hBelow]
  | @part content inner last value part found step place hMem _ ih =>
    -- Nothing can be wrong on the whole, since there would be no parts then.
    have hWhole : content.complaint? value = none := by
      rw [Option.eq_none_iff_forall_ne_some]
      intro c hWhole
      rw [parts_eq_nil hWhole] at hMem
      cases hMem
    have hSteps := (isPartList_parts content value).nodup_steps h.isKeyed
    rw [violations_of_parts h hWhole, filter_partViolations hSteps hMem, Part.violations,
      ih ((isIn_of_parts hMem).isReadable h), List.map_map]
    rfl

/-- Something is wrong at a place or below it exactly when the part there cannot be read alone. -/
theorem exists_below_iff (h : Json.IsReadable value)
    (hPart : PartAt content value place inner part) :
    (∃ v ∈ (content.read value).violations, place <+: v.place) ↔
      ¬ ∃ a, inner.read part = .ok a := by
  rw [← (inner.hasReason_read part).violations_eq_nil, ← List.map_eq_nil_iff,
    ← filter_violations h hPart, List.filter_eq_nil_iff]
  simp

end Readings

/-- The account of what is wrong with a value. -/
structure Content.Account (content : Content) (value : Value) (vs : List Violation) : Prop where
  /-- It holds all that violates what is expected of the value, and nothing else. -/
  complete : ∀ v, v ∈ vs ↔ Violated content value v
  /-- Fields come in the order in which they are declared, items and members in their own. -/
  ordered : vs.Pairwise fun v w => Precedes content value v.place w.place
  /-- No violation comes twice, and none lies below another one. -/
  apart : vs.Pairwise fun v w => ¬ v.place <+: w.place ∧ ¬ w.place <+: v.place
  /-- What it holds for a part is what is wrong with the part alone. -/
  composed : ∀ {place : List Step} {inner : Content} {part : Value},
    PartAt content value place inner part →
      vs.filter (fun v => place <+: v.place) = (inner.read part).violations.map (.below place) ∧
      ((∃ v ∈ vs, place <+: v.place) ↔ ¬ ∃ a, inner.read part = .ok a)

theorem Content.account_read {value : Value} (h : Json.IsReadable value) (content : Content) :
    content.Account value (content.read value).violations where
  complete _ := mem_violations_iff h
  ordered := pairwise_violations h content
  apart := (pairwise_violations h content).imp fun hBefore => hBefore.not_prefix h
  composed hPart := ⟨filter_violations h hPart, exists_below_iff h hPart⟩

end TelemetryLog
