import TelemetryLog.Proofs.CommandLine

/-! What the value of an option changes. An option that takes a value is written with it in one
argument or in two. If it does not come again, another value in its place is read as that value, and
all else, be it a fault, is read as before. -/

namespace TelemetryLog

/-- How an option is written with a value: the value is an argument of its own, or stands in that of
the option after an equals sign. -/
inductive CliOption.Writes (option : CliOption) (value : String) : List String → Prop
  | apart (hPlain : ArgumentShape.ofArgument value = .ok .plain) :
      Writes option value [option.long, value]
  | joined (hValue : value ≠ "--") : Writes option value [option.long ++ "=" ++ value]

namespace ArgumentShape

theorem ofArgument_long (option : CliOption) :
    ofArgument option.long = .ok (.named option none) := by
  cases option <;> decide +kernel

theorem ofArgument_joined (option : CliOption) (value : String) :
    ofArgument (option.long ++ "=" ++ value) = .ok (.named option (some value)) := by
  cases option <;>
    simp [ofArgument, ofLong, splitAtEquals, CliOption.long, CliOption.all, String.toList_append]

theorem ofUnknown_ne_dashes (rest : List Char) : ofUnknown rest ≠ .dashes := by
  unfold ofUnknown
  split <;> simp

theorem ofShort_ne_dashes (s : List Char) : ofShort s ≠ .dashes := by
  unfold ofShort
  split <;> simp [ofUnknown_ne_dashes]

theorem ofLong_ne_dashes (s : List Char) : ofLong s ≠ .ok .dashes := by
  unfold ofLong
  dsimp only
  split
  · simp
  · split <;> simp [ofUnknown_ne_dashes]

theorem ofArgument_eq_dashes_iff {s : String} : ofArgument s = .ok .dashes ↔ s = "--" := by
  constructor
  · intro h
    unfold ofArgument at h
    split at h
    · rename_i hChars
      exact String.toList_inj.mp hChars
    · cases h
    · exact absurd h (ofLong_ne_dashes _)
    · exact absurd (Except.ok.inj h) (ofShort_ne_dashes _)
    · cases h
  · rintro rfl
    decide +kernel

theorem ofAll_append {before : List String} (hDashes : "--" ∉ before) (rest : List String) :
    ofAll (before ++ rest) =
      (ofAll before).bind fun shapes => (ofAll rest).map (shapes ++ ·) := by
  induction before with
  | nil => cases h : ofAll rest <;> simp [ofAll, Except.bind, Except.map, h]
  | cons s before ih =>
    rw [List.mem_cons, not_or] at hDashes
    obtain ⟨hFirst, hBefore⟩ := hDashes
    rw [List.cons_append, ofAll, ofAll, ih hBefore]
    cases hShape : ofArgument s with
    | error fault => rfl
    | ok shape =>
      cases shape with
      | dashes => exact absurd (ofArgument_eq_dashes_iff.mp hShape).symm hFirst
      | _ => cases ofAll before <;> cases ofAll rest <;> rfl

/-- Each shape is that of an argument, or is plain as all are after two dashes. -/
theorem shape_of_mem_ofAll {arguments : List String} {shapes : List (String × ArgumentShape)}
    (h : ofAll arguments = .ok shapes) {s : String} {shape : ArgumentShape}
    (hShape : (s, shape) ∈ shapes) :
    s ∈ arguments ∧ (ofArgument s = .ok shape ∨ shape = .plain) := by
  induction arguments generalizing shapes with
  | nil =>
    cases h
    cases hShape
  | cons first rest ih =>
    rw [ofAll] at h
    split at h
    · cases h
    · rename_i hFirst
      cases h
      obtain hHead | hTail := List.mem_cons.mp hShape
      · cases hHead
        exact ⟨List.mem_cons_self, .inl hFirst⟩
      · obtain ⟨other, hOther, hPair⟩ := List.mem_map.mp hTail
        cases hPair
        exact ⟨List.mem_cons_of_mem _ hOther, .inr rfl⟩
    · rename_i hFirst
      cases hRest : ofAll rest with
      | error fault => simp [hRest, Except.map] at h
      | ok later =>
        rw [hRest] at h
        cases h
        obtain hHead | hTail := List.mem_cons.mp hShape
        · cases hHead
          exact ⟨List.mem_cons_self, .inl hFirst⟩
        · obtain ⟨hMem, hOwn⟩ := ih hRest hTail
          exact ⟨List.mem_cons_of_mem _ hMem, hOwn⟩

theorem ne_named_of_ofAll {option : CliOption} {arguments : List String}
    {shapes : List (String × ArgumentShape)}
    (hOther : ∀ s ∈ arguments, ∀ written, ofArgument s ≠ .ok (.named option written))
    (h : ofAll arguments = .ok shapes) :
    ∀ shape ∈ shapes.map Prod.snd, ∀ written, shape ≠ .named option written := by
  rintro _ hShape written rfl
  obtain ⟨⟨s, _⟩, hPair, rfl⟩ := List.mem_map.mp hShape
  obtain ⟨hMem, hOwn | hPlain⟩ := shape_of_mem_ofAll h hPair
  · exact hOther s hMem written hOwn
  · cases hPlain

theorem ofAll_between {before piece : List String} (hBefore : "--" ∉ before) (hPiece : "--" ∉ piece)
    {shapes : List (String × ArgumentShape)} (hShapes : ofAll piece = .ok shapes)
    (after : List String) :
    ofAll (before ++ piece ++ after) = (ofAll before).bind fun first =>
      (ofAll after).map fun last => first ++ (shapes ++ last) := by
  rw [List.append_assoc, ofAll_append hBefore, ofAll_append hPiece, hShapes]
  cases ofAll before <;> cases ofAll after <;> rfl

end ArgumentShape

namespace Arguments

open ArgumentShape (ofArgument ofAll)

variable {option : CliOption} {value other : String}

theorem set_set (args : Arguments) (option : CliOption) (first last : GivenText) :
    (args.set first option).set last option = args.set last option := by
  cases option <;> rfl

theorem set_comm (args : Arguments) {option other : CliOption} (h : option ≠ other)
    (value last : GivenText) :
    (args.set value option).set last other = (args.set last other).set value option := by
  cases option <;> cases other <;> first | rfl | exact absurd rfl h

variable [Host]

theorem ofShapes_noValue (hHelp : option ≠ .help) {rest : List (String × ArgumentShape)}
    (hPlain : ∀ value later, rest ≠ (value, .plain) :: later) (args : Arguments)
    (extra : List String) (s : String) :
    ofShapes args extra ((s, .named option .none) :: rest) = .error (.noValue option) := by
  rw [ofShapes]
  · exact hHelp
  · exact hPlain

/-- The value that an option has takes no part in how the rest is read, if the option does not come
again. -/
theorem ofShapes_set {shapes : List (String × ArgumentShape)}
    (hOther : ∀ shape ∈ shapes.map Prod.snd, ∀ written, shape ≠ .named option written)
    (value : GivenText) (args : Arguments) (extra : List String) :
    ofShapes (args.set value option) extra shapes =
      (ofShapes args extra shapes).map (Prod.map (·.set value option) id) := by
  fun_induction ofShapes args extra shapes with
  | case1 | case2 | case3 | case4 => rfl
  | case5 args extra s other written rest hHelp ih =>
    obtain ⟨hFirst, hRest⟩ := List.forall_mem_cons.mp hOther
    have hNe : option ≠ other := fun h => hFirst (some written) (h ▸ rfl)
    rw [ofShapes, set_comm args hNe, ih hRest]
    exact hHelp
  | case6 args extra s other written rest hHelp ih =>
    obtain ⟨hFirst, hLater⟩ := List.forall_mem_cons.mp hOther
    have hNe : option ≠ other := fun h => hFirst .none (h ▸ rfl)
    rw [ofShapes, set_comm args hNe, ih (List.forall_mem_cons.mp hLater).2]
    exact hHelp
  | case7 args extra s other rest hHelp hPlain =>
    rw [ofShapes_noValue hHelp hPlain]
    rfl
  | case8 args extra s shape rest _ _ _ _ _ _ ih =>
    rw [ofShapes, ih (List.forall_mem_cons.mp hOther).2] <;> assumption

/-- What comes of two command lines that begin alike differs as it does for what they end with, if
neither end has a value for what stands before it. -/
theorem ofShapes_append {tail otherTail : List (String × ArgumentShape)}
    {change : Arguments × List String → Arguments × List String}
    (hTail : ∀ args extra, ofShapes args extra tail = (ofShapes args extra otherTail).map change)
    (hFirst : ∀ value rest, tail ≠ (value, .plain) :: rest)
    (hOtherFirst : ∀ value rest, otherTail ≠ (value, .plain) :: rest)
    (shapes : List (String × ArgumentShape)) (args : Arguments) (extra : List String) :
    ofShapes args extra (shapes ++ tail) =
      (ofShapes args extra (shapes ++ otherTail)).map change := by
  fun_induction ofShapes args extra shapes with
  | case1 args extra => exact hTail args extra
  | case2 | case3 | case4 => rfl
  | case5 args extra s option written rest hHelp ih =>
    rw [List.cons_append, List.cons_append, ofShapes, ih, ofShapes] <;> exact hHelp
  | case6 args extra s option written rest hHelp ih =>
    simp only [List.cons_append]
    rw [ofShapes, ih, ofShapes] <;> exact hHelp
  | case7 args extra s option rest hHelp hPlain =>
    have hLater : ∀ last : List (String × ArgumentShape),
        (∀ value rest, last ≠ (value, .plain) :: rest) →
        ∀ value later, rest ++ last ≠ (value, .plain) :: later := by
      intro last hLast value later hEq
      cases rest with
      | nil => exact hLast value later hEq
      | cons first rest =>
        cases hEq
        exact hPlain _ _ rfl
    rw [List.cons_append, List.cons_append, ofShapes_noValue hHelp (hLater tail hFirst),
      ofShapes_noValue hHelp (hLater otherTail hOtherFirst)]
    rfl
  | case8 args extra s shape rest _ _ _ _ _ hNamed ih =>
    rw [List.cons_append, List.cons_append, ofShapes, ih, ofShapes] <;>
      first | assumption | exact fun option value later _ => hNamed option

theorem exists_shapes_of_writes (hHelp : option ≠ .help) {piece : List String}
    (h : option.Writes value piece) :
    "--" ∉ piece ∧ ∃ shapes, ofAll piece = .ok shapes ∧
      (∀ last s rest, shapes ++ last ≠ (s, .plain) :: rest) ∧
      ∀ args extra rest, ofShapes args extra (shapes ++ rest) =
        ofShapes (args.set (.text value) option) extra rest := by
  have hNotDashes : ∀ {s shape}, ofArgument s = .ok shape → shape ≠ .dashes → "--" ≠ s := by
    rintro s shape hShape hNe rfl
    rw [ArgumentShape.ofArgument_eq_dashes_iff.mpr rfl] at hShape
    exact hNe (Except.ok.inj hShape).symm
  cases h with
  | apart hPlain =>
    have hLong := ArgumentShape.ofArgument_long option
    refine ⟨?_, [(option.long, .named option .none), (value, .plain)], ?_, by simp, ?_⟩
    · simp [hNotDashes hLong, hNotDashes hPlain]
    · simp [ArgumentShape.ofAll, hLong, hPlain, Except.map]
    · intro args extra rest
      simp only [List.cons_append, List.nil_append]
      rw [ofShapes]
      exact hHelp
  | joined hValue =>
    have hJoined := ArgumentShape.ofArgument_joined option value
    refine ⟨?_, [(option.long ++ "=" ++ value, .named option (some value))], ?_, by simp, ?_⟩
    · simp [hNotDashes hJoined]
    · simp [ArgumentShape.ofAll, hJoined, Except.map]
    · intro args extra rest
      simp only [List.cons_append, List.nil_append]
      rw [ofShapes, valueOf, if_neg fun h => hValue h.2]
      exact hHelp

/-- Another value in the place of one changes that value in what is read, and nothing else, if the
option does not come again. -/
theorem parse_of_writes (hHelp : option ≠ .help) {before after piece otherPiece : List String}
    (hDashes : "--" ∉ before)
    (hLast : ∀ s ∈ after, ∀ written, ofArgument s ≠ .ok (.named option written))
    (hPiece : option.Writes value piece) (hOther : option.Writes other otherPiece) :
    parse (before ++ piece ++ after) =
      (parse (before ++ otherPiece ++ after)).map (·.set (.text value) option) := by
  obtain ⟨hNone, shapes, hShapes, hFirst, hSet⟩ := exists_shapes_of_writes hHelp hPiece
  obtain ⟨hNone', shapes', hShapes', hFirst', hSet'⟩ := exists_shapes_of_writes hHelp hOther
  simp only [parse, ArgumentShape.ofAll_between hDashes hNone hShapes,
    ArgumentShape.ofAll_between hDashes hNone' hShapes']
  cases hBefore : ofAll before with
  | error fault => rfl
  | ok first =>
    cases hAfter : ofAll after with
    | error fault => rfl
    | ok last =>
      have hLater := ArgumentShape.ne_named_of_ofAll hLast hAfter
      have hTail : ∀ args extra, ofShapes args extra (shapes ++ last) =
          (ofShapes args extra (shapes' ++ last)).map
            (Prod.map (·.set (.text value) option) id) := by
        intro args extra
        rw [hSet, hSet', ← set_set args option (.text other) (.text value), ofShapes_set hLater]
      have hRead := ofShapes_append hTail (hFirst last) (hFirst' last) first none []
      simp only [Except.bind, Except.map, bind, hRead]
      cases ofShapes none [] (first ++ (shapes' ++ last)) with
      | error fault => rfl
      | ok given =>
        obtain ⟨given, extra⟩ := given
        cases extra <;> rfl

end Arguments

end TelemetryLog
