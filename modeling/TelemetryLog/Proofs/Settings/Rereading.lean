import TelemetryLog.Proofs.Service.Requests
import TelemetryLog.Proofs.Settings.Precedence

/-! Settings that are read again. A reading leaves the variables of its file in the environment,
which stands before the file at the next one. So the next reading has the same result if it reads
the same file, unless a variable has been refused. The usual file can name another one to read; from
then on the result stays. -/

namespace TelemetryLog

/-- The fault of a variable that cannot be put into an environment. -/
def SettingsFault.isRefusal : SettingsFault → Bool
  | .illegalName | .nulInVariable => true
  | .notInteger _ | .tooManyDigits _ | .unusableFile _ => false

namespace EnvFile

/-- A name of a file, and whether it has a value. -/
def form (binding : Binding) : String × Bool := (binding.1, binding.2.isSome)

theorem form_bind {name : String} {value value' : Option String}
    (hValue : value.isSome = value'.isSome) {bindings bindings' : List Binding}
    (h : bindings.map form = bindings'.map form) :
    (bind name value bindings).map form = (bind name value' bindings').map form := by
  induction bindings generalizing bindings' with
  | nil =>
    obtain rfl := List.map_eq_nil_iff.mp h.symm
    simp [bind, form, hValue]
  | cons binding rest ih =>
    cases bindings' with
    | nil => cases h
    | cons binding' rest' =>
      obtain ⟨hFirst, hRest⟩ := List.cons.inj h
      have hName : binding.1 = binding'.1 := (Prod.mk.inj hFirst).1
      simp only [bind, ← hName]
      split
      · simp [form, hValue, hRest]
      · rw [List.map_cons, List.map_cons, ih hRest]
        simp [form, (Prod.mk.inj hFirst).2]

theorem form_foldl_bind {value value' : List Binding → Binding → Option String}
    (hValue : ∀ done done' binding, (value done binding).isSome = (value' done' binding).isSome)
    (unread : List Binding) {done done' : List Binding} (h : done.map form = done'.map form) :
    (unread.foldl (fun done binding => bind binding.1 (value done binding) done) done).map form =
      (unread.foldl (fun done binding => bind binding.1 (value' done binding) done) done').map
        form := by
  induction unread generalizing done done' with
  | nil => exact h
  | cons binding rest ih => exact ih (form_bind (hValue done done' binding) h)

/-- An environment has a say in the values of a file, not in which names have one. -/
theorem form_expanded (env env' : Environment) (content : String) :
    (expanded env content).map form = (expanded env' content).map form :=
  @form_foldl_bind (fun done binding => binding.2.map (expand (resolve env done)))
    (fun done binding => binding.2.map (expand (resolve env' done)))
    (fun _ _ _ => by rw [Option.isSome_map, Option.isSome_map]) (bindings content) [] [] rfl

theorem exists_mem_expanded {env : Environment} {content name value : String}
    (h : (name, some value) ∈ expanded env content) (env' : Environment) :
    ∃ value', (name, some value') ∈ expanded env' content := by
  have hForm : (name, true) ∈ (expanded env' content).map form := by
    rw [form_expanded env' env]
    exact List.mem_map_of_mem (f := form) h
  obtain ⟨⟨name', value'⟩, hMem, hEq⟩ := List.mem_map.mp hForm
  obtain ⟨rfl, hSome⟩ := Prod.mk.inj hEq
  obtain ⟨text, rfl⟩ := Option.isSome_iff_exists.mp hSome
  exact ⟨text, hMem⟩

end EnvFile

namespace Settings

open EnvFile

variable {env env' : Environment} {tree : Tree} {asked : Option String}

/-! ### Variables that are added again -/

theorem checkVariable_eq (name value : String) :
    checkVariable name value =
      if '\x00' ∈ name.toList ∨ '\x00' ∈ value.toList then .error .nulInVariable
      else if '=' ∈ name.toList then .error .illegalName
      else .ok () := by
  simp [checkVariable, String.contains_char_eq]

section Variables

variable {bindings : List Binding} {name value : String}

theorem get?_setIfAbsent_self (h : ¬ (env.get? name).isSome = true) :
    (env.setIfAbsent name value).get? name = some value := by
  rw [get?_setIfAbsent, Option.not_isSome_iff_eq_none.mp h, if_pos rfl]
  rfl

theorem addVariables_cons_of_set {old : String} (h : env.get? name = some old) :
    addVariables env ((name, some value) :: bindings) = addVariables env bindings := by
  rw [addVariables, h]
  rfl

theorem get?_addVariables (h : env.get? name = some value) :
    (addVariables env bindings).1.get? name = some value := by
  fun_induction addVariables env bindings with
  | case1 => exact h
  | case2 env _ rest ih => exact ih h
  | case3 env other text rest hSet ih => exact ih h
  | case4 env other text rest hUnset hCheck ih => exact ih (by rw [get?_setIfAbsent, h]; rfl)
  | case5 => exact h

/-- A variable that was not there before comes from the file. -/
theorem mem_of_get?_addVariables (hNew : env.get? name = none)
    (h : (addVariables env bindings).1.get? name = some value) : (name, some value) ∈ bindings := by
  fun_induction addVariables env bindings with
  | case1 => cases hNew.symm.trans h
  | case2 env _ rest ih => exact List.mem_cons_of_mem _ (ih hNew h)
  | case3 env other text rest hSet ih => exact List.mem_cons_of_mem _ (ih hNew h)
  | case4 env other text rest hUnset hCheck ih =>
    by_cases hName : name = other
    · subst hName
      have hText : (addVariables (env.setIfAbsent name text) rest).1.get? name = some text :=
        get?_addVariables (get?_setIfAbsent_self hUnset)
      obtain rfl := Option.some.inj (hText.symm.trans h)
      exact List.mem_cons_self
    · have hStill : (env.setIfAbsent other text).get? name = none := by
        rw [get?_setIfAbsent, hNew, if_neg hName]
        rfl
      exact List.mem_cons_of_mem _ (ih hStill h)
  | case5 => cases hNew.symm.trans h

/-- If no variable is refused, each name with a value is set. -/
theorem isSome_get?_addVariables (h : (addVariables env bindings).2 = .ok ())
    (hMem : (name, some value) ∈ bindings) :
    ((addVariables env bindings).1.get? name).isSome = true := by
  fun_induction addVariables env bindings with
  | case1 => cases hMem
  | case2 env other rest ih =>
    obtain hFirst | hRest := List.mem_cons.mp hMem
    · cases hFirst
    · exact ih h hRest
  | case3 env other text rest hSet ih =>
    obtain hFirst | hRest := List.mem_cons.mp hMem
    · cases hFirst
      obtain ⟨old, hOld⟩ := Option.isSome_iff_exists.mp hSet
      exact Option.isSome_of_eq_some (get?_addVariables hOld)
    · exact ih h hRest
  | case4 env other text rest hUnset hCheck ih =>
    obtain hFirst | hRest := List.mem_cons.mp hMem
    · cases hFirst
      exact Option.isSome_of_eq_some (get?_addVariables (get?_setIfAbsent_self hUnset))
    · exact ih h hRest
  | case5 => cases h

/-- Nothing is left to do for names that are all set. -/
theorem addVariables_of_set
    (h : ∀ name value, (name, some value) ∈ bindings → (env.get? name).isSome = true) :
    addVariables env bindings = (env, .ok ()) := by
  fun_induction addVariables env bindings with
  | case1 => rfl
  | case2 env other rest ih => exact ih fun name value hMem => h name value (.tail _ hMem)
  | case3 env other text rest hSet ih => exact ih fun name value hMem => h name value (.tail _ hMem)
  | case4 env other text rest hUnset => exact absurd (h other text List.mem_cons_self) hUnset
  | case5 env other text rest hUnset => exact absurd (h other text List.mem_cons_self) hUnset

/-- The same variables stop at the same one again, if any. -/
theorem addVariables_again (env : Environment) (bindings : List Binding) :
    addVariables (addVariables env bindings).1 bindings = addVariables env bindings := by
  fun_induction addVariables env bindings with
  | case1 => rfl
  | case2 env other rest ih => rwa [addVariables]
  | case3 env other text rest hSet ih =>
    obtain ⟨old, hOld⟩ := Option.isSome_iff_exists.mp hSet
    rwa [addVariables_cons_of_set (get?_addVariables hOld)]
  | case4 env other text rest hUnset hCheck ih =>
    rwa [addVariables_cons_of_set (get?_addVariables (get?_setIfAbsent_self hUnset))]
  | case5 env other text rest hUnset fault hCheck => rw [addVariables, if_neg hUnset, hCheck]

theorem isRefusal_of_addVariables {fault : SettingsFault}
    (h : (addVariables env bindings).2 = .error fault) : fault.isRefusal = true := by
  fun_induction addVariables env bindings with
  | case1 => cases h
  | case2 env other rest ih => exact ih h
  | case3 env other text rest hSet ih => exact ih h
  | case4 env other text rest hUnset hCheck ih => exact ih h
  | case5 env other text rest hUnset other' hCheck =>
    cases h
    unfold checkVariable at hCheck
    split at hCheck
    · cases hCheck
      rfl
    · split at hCheck
      · cases hCheck
        rfl
      · cases hCheck

end Variables

/-! ### Files that are read again -/

section Files

variable {chosen : Option String}

theorem addFile_of_content {file content : String} (hChosen : chosenFile? env asked = some file)
    (hContent : contentOf tree file = .ok content) :
    addFile tree env asked = addVariables env (variablesOf tree env (some file)) := by
  simp only [addFile, hChosen, hContent, variablesOf]
  split <;> rfl

/-- A chosen file cannot be used, or adds its variables. -/
theorem addFile_cases (tree : Tree) (asked chosen : Option String) :
    (∃ fault : SettingsFault, fault.isRefusal = false ∧ ∀ env, chosenFile? env asked = chosen →
      addFile tree env asked = (env, .error fault)) ∨
    ∀ env, chosenFile? env asked = chosen →
      addFile tree env asked = addVariables env (variablesOf tree env chosen) := by
  cases chosen with
  | none =>
    refine .inr fun env hChosen => ?_
    simp only [addFile, hChosen, variablesOf, addVariables]
  | some file =>
    cases hContent : contentOf tree file with
    | error fault =>
      obtain ⟨-, rfl⟩ := contentOf_eq_error_iff.mp hContent
      refine .inl ⟨.unusableFile ⟨.nameTooLong, .ofText file⟩, rfl, fun env hChosen => ?_⟩
      simp only [addFile, hChosen, hContent]
    | ok content => exact .inr fun env hChosen => addFile_of_content hChosen hContent

theorem get?_addFile {name value : String} (h : env.get? name = some value) :
    (addFile tree env asked).1.get? name = some value := by
  obtain ⟨fault, -, hAdded⟩ | hAdded := addFile_cases tree asked (chosenFile? env asked)
  · rwa [hAdded env rfl]
  · rw [hAdded env rfl]
    exact get?_addVariables h

theorem isFileOff_addFile (h : isFileOff env = true) :
    isFileOff (addFile tree env asked).1 = true := by
  unfold isFileOff at h ⊢
  cases hSwitch : env.get? switchVariable with
  | none => simp [hSwitch] at h
  | some value => rwa [get?_addFile hSwitch, ← hSwitch]

/-- A name with a value in another environment has one here, unless files are switched off here
alone. -/
theorem exists_mem_variablesOf {name value : String}
    (hOff : isFileOff env = true → isFileOff env' = true)
    (h : (name, some value) ∈ variablesOf tree env' chosen) :
    ∃ value', (name, some value') ∈ variablesOf tree env chosen := by
  unfold variablesOf at h ⊢
  cases chosen with
  | none => cases h
  | some file =>
    cases hContent : contentOf tree file with
    | error fault =>
      simp only [hContent] at h
      cases h
    | ok content =>
      simp only [hContent] at h ⊢
      cases hOff' : isFileOff env' with
      | true =>
        rw [hOff', if_pos rfl] at h
        cases h
      | false =>
        have hOn : ¬ isFileOff env = true := fun hHere => by simp [hOff hHere] at hOff'
        rw [hOff', if_neg Bool.false_ne_true] at h
        rw [if_neg hOn]
        exact exists_mem_expanded h env

/-- There are no settings because a variable of the file has been refused. -/
def Refused {α : Type} (result : Except SettingsFault α) : Prop :=
  ∃ fault, result = .error fault ∧ fault.isRefusal = true

/-- The same file has nothing to add to its own variables; if one of them has been refused, it is
refused again as long as they are as they were. -/
theorem addFile_again (hFile : chosenFile? (addFile tree env asked).1 asked = chosenFile? env asked)
    (hRefused : Refused (addFile tree env asked).2 →
      variablesOf tree (addFile tree env asked).1 (chosenFile? env asked) =
        variablesOf tree env (chosenFile? env asked)) :
    addFile tree (addFile tree env asked).1 asked = addFile tree env asked := by
  have hOff : isFileOff env = true → isFileOff (addFile tree env asked).1 = true :=
    isFileOff_addFile
  obtain ⟨fault, -, hAdded⟩ | hAdded := addFile_cases tree asked (chosenFile? env asked)
  · rw [hAdded env rfl] at hFile ⊢
    exact hAdded env rfl
  · rw [hAdded _ hFile]
    rw [hAdded env rfl] at hRefused hOff ⊢
    cases hDone : (addVariables env (variablesOf tree env (chosenFile? env asked))).2 with
    | ok =>
      -- values may be expanded otherwise now, but each name with a value is set
      rw [addVariables_of_set fun name value hMem => ?_]
      · exact Prod.ext rfl hDone.symm
      · obtain ⟨value', hMem'⟩ := exists_mem_variablesOf hOff hMem
        exact isSome_get?_addVariables hDone hMem'
    | error fault =>
      rw [hRefused ⟨fault, hDone, isRefusal_of_addVariables hDone⟩]
      exact addVariables_again env _

theorem load_fst (tree : Tree) (env : Environment) (asked : Option String) :
    (load tree env asked).1 = (addFile tree env asked).1 := by
  unfold load
  split
  · rename_i hAdded
    rw [hAdded]
  · rename_i hAdded
    rw [hAdded]

theorem get?_load {name value : String} (h : env.get? name = some value) :
    (load tree env asked).1.get? name = some value := by
  rw [load_fst]
  exact get?_addFile h

theorem refused_load_iff :
    Refused (load tree env asked).2 ↔ Refused (addFile tree env asked).2 := by
  unfold load
  split
  · rename_i added hAdded
    rw [hAdded]
    constructor
    · rintro ⟨fault, hFault, hRefusal⟩
      have hSpec := ofEnvironment_spec added
      rw [show ofEnvironment added = .error fault from hFault] at hSpec
      obtain ⟨entry, -, refusal, -, rfl⟩ := hSpec
      cases refusal with
      | malformed => cases hRefusal
      | tooLong count => cases hRefusal
    · rintro ⟨fault, hFault, -⟩
      cases hFault
  · rename_i hAdded
    rw [hAdded]
    simp only [Refused, Except.error.injEq]

theorem chosenFile?_congr (h : env'.get? fileVariable = env.get? fileVariable) :
    chosenFile? env' asked = chosenFile? env asked := by
  unfold chosenFile? Environment.getD
  rw [h]

end Files

/-! ### Settings that are read again -/

/-- The results of reading the settings over and over, each time in the environment that the time
before has left. -/
def readings (tree : Tree) (env : Environment) (asked : Option String) :
    Nat → Environment × Except SettingsFault Settings
  | 0 => load tree env asked
  | n + 1 => load tree (readings tree env asked n).1 asked

/-- After a reading the same file is chosen, and if a variable has been refused, the file has the
same variables as before. -/
def Repeats (tree : Tree) (env : Environment) (asked : Option String) : Prop :=
  let first := load tree env asked
  let chosen := chosenFile? env asked
  chosenFile? first.1 asked = chosen ∧
    (Refused first.2 → variablesOf tree first.1 chosen = variablesOf tree env chosen)

theorem Repeats.load_load (h : Repeats tree env asked) :
    load tree (load tree env asked).1 asked = load tree env asked := by
  obtain ⟨hFile, hRefused⟩ := h
  rw [refused_load_iff] at hRefused
  rw [load_fst] at hFile hRefused ⊢
  unfold load
  rw [addFile_again hFile hRefused]

theorem readings_of_load {result : Environment × Except SettingsFault Settings}
    (hResult : load tree env asked = result) (h : load tree result.1 asked = result) (n : Nat) :
    readings tree env asked n = result := by
  induction n with
  | zero => exact hResult
  | succ n ih => rw [readings, ih, h]

theorem readings_succ (tree : Tree) (env : Environment) (asked : Option String) (n : Nat) :
    readings tree env asked (n + 1) = readings tree (load tree env asked).1 asked n := by
  induction n with
  | zero => rfl
  | succ n ih => rw [readings, ih, readings]

/-- A reading that is asked for no file, in an environment that names none, is of the usual file; if
that names another one, the next reading is of the latter, or of none if the name is empty. -/
def TurnsElsewhere (tree : Tree) (env : Environment) (asked : Option String) : Prop :=
  (asked = none ∨ asked = some "") ∧ env.get? fileVariable = none ∧
    ∃ other, other ≠ usualFile ∧
      (fileVariable, some other) ∈ variablesOf tree env (some usualFile) ∧
      (load tree env asked).1.get? fileVariable = some other

theorem mem_of_get?_load {name value : String} (hNew : env.get? name = none)
    (h : (load tree env asked).1.get? name = some value) :
    (name, some value) ∈ variablesOf tree env (chosenFile? env asked) := by
  rw [load_fst] at h
  obtain ⟨fault, -, hAdded⟩ | hAdded := addFile_cases tree asked (chosenFile? env asked)
  · rw [hAdded env rfl] at h
    cases hNew.symm.trans h
  · rw [hAdded env rfl] at h
    exact mem_of_get?_addVariables hNew h

theorem chosenFile?_load_ne_iff :
    chosenFile? (load tree env asked).1 asked ≠ chosenFile? env asked ↔
      TurnsElsewhere tree env asked := by
  constructor
  · intro h
    have hNamed : (load tree env asked).1.get? fileVariable ≠ env.get? fileVariable :=
      fun hSame => h (chosenFile?_congr hSame)
    have hAsked : asked = none ∨ asked = some "" := by
      by_contra hGiven
      obtain ⟨hSome, hName⟩ := not_or.mp hGiven
      obtain ⟨file, rfl⟩ := Option.ne_none_iff_exists'.mp hSome
      have hFile : file ≠ "" := fun hEmpty => hName (congrArg some hEmpty)
      exact h ((isChosen_iff.mp (.asked rfl hFile)).trans (isChosen_iff.mp (.asked rfl hFile)).symm)
    have hUnnamed : env.get? fileVariable = none := by
      by_contra hSet
      obtain ⟨file, hFile⟩ := Option.ne_none_iff_exists'.mp hSet
      exact hNamed ((get?_load hFile).trans hFile.symm)
    obtain ⟨other, hOther⟩ := Option.ne_none_iff_exists'.mp (hUnnamed ▸ hNamed)
    have hUsual := isChosen_iff.mp (.usual hAsked hUnnamed)
    have hMem := mem_of_get?_load hUnnamed hOther
    rw [hUsual] at h hMem
    refine ⟨hAsked, hUnnamed, other, ?_, hMem, hOther⟩
    rintro rfl
    exact h (isChosen_iff.mp (.named hAsked hOther (by decide)))
  · rintro ⟨hAsked, hUnnamed, other, hNe, -, hOther⟩
    rw [isChosen_iff.mp (.usual hAsked hUnnamed)]
    by_cases hEmpty : other = ""
    · rw [isChosen_iff.mp (.noFile hAsked (hEmpty ▸ hOther))]
      exact (Option.some_ne_none usualFile).symm
    · rw [isChosen_iff.mp (.named hAsked hOther hEmpty)]
      exact fun hSame => hNe (Option.some.inj hSame)

/-- Once the settings have been read twice, with no variable refused, the results stay. -/
theorem load_load_load (hFirst : ¬ Refused (load tree env asked).2)
    (hSecond : ¬ Refused (load tree (load tree env asked).1 asked).2) :
    let second := load tree (load tree env asked).1 asked
    load tree second.1 asked = second := by
  by_cases hFile : chosenFile? (load tree env asked).1 asked = chosenFile? env asked
  · have hRepeats : Repeats tree env asked := ⟨hFile, fun h => absurd h hFirst⟩
    simp only [hRepeats.load_load]
  · obtain ⟨-, -, other, -, -, hOther⟩ := chosenFile?_load_ne_iff.mp hFile
    have hStays : (load tree (load tree env asked).1 asked).1.get? fileVariable =
        (load tree env asked).1.get? fileVariable := (get?_load hOther).trans hOther.symm
    have hRepeats : Repeats tree (load tree env asked).1 asked :=
      ⟨chosenFile?_congr hStays, fun h => absurd h hSecond⟩
    exact hRepeats.load_load

end Settings

namespace Service

variable {s : Service}

/-- The settings that the receiver of a service runs with, if it has one. -/
def configuration? (s : Service) : Option Settings := s.receiver.map (·.settings)

theorem environment_stop (broker : Broker) (s : Service) :
    (s.stop broker).1.environment = s.environment := by
  unfold stop
  split <;> rfl

theorem environment_onReached (event : Receiver → Received) (s : Service) :
    (s.onReached event).1.environment = s.environment := by
  unfold onReached withReached
  split
  · dsimp only
    split <;> rfl
  · rfl

/-- Only a start reads the settings. -/
theorem environment_run [Host] {requests : List Request}
    (h : ∀ request ∈ requests, request.isStart = false) :
    (s.run requests).environment = s.environment := by
  induction requests generalizing s with
  | nil => rfl
  | cons request rest ih =>
    obtain ⟨hFirst, hRest⟩ := List.forall_mem_cons.mp h
    rw [run_cons, ih hRest]
    cases request with
    | start => cases hFirst
    | stop broker => exact environment_stop broker s
    | look => rfl
    | message | drop | acknowledge => exact environment_onReached _ s

/-- A start of a service without a receiver reads the settings, and a receiver runs with them. -/
theorem reads_start (hReceiver : s.receiver = none) (given : Option Settings) (tree : Tree)
    (broker : Broker) (seconds : Int) :
    let read := settings tree s.environment given
    let begun := s.start given tree broker seconds
    begun.service.environment = read.1 ∧ begun.service.configuration? = read.2.toOption ∧
      ∀ fault, begun.result = .error fault ↔ read.2 = .error fault := by
  intro read begun
  have hBegun : ∀ fault, begun.result = .error fault ↔ read.2 = .error fault := fun fault => by
    rw [start_eq_error_iff, and_iff_right hReceiver]
  obtain ⟨fault, hRead, hStart⟩ | ⟨chosen, hRead, hStart⟩ :=
    start_of_none given tree broker seconds hReceiver
  · have hSettings : begun.service.configuration? = read.2.toOption := by
      simp only [begun, read, hStart, hRead]
      rfl
    exact ⟨congrArg (·.service.environment) hStart, hSettings, hBegun⟩
  · have hSettings : begun.service.configuration? = read.2.toOption := by
      simp only [begun, read, hStart, hRead, configuration?, Option.map_some,
        Receiver.settings_start]
      rfl
    exact ⟨congrArg (·.service.environment) hStart, hSettings, hBegun⟩

end Service

namespace Settings

/-- Settings that are read again are those of the first reading if the same file is chosen and no
variable of it has been refused, or else the file has the same variables as before; so is the fault
if there are none. Another file is chosen only if the usual one names it; from the next reading on,
the results stay. So a service that is stopped and started again runs with the settings that it had
before. -/
theorem load_again [Host] (tree : Tree) (env : Environment) (asked : Option String) :
    let first := load tree env asked
    let second := load tree first.1 asked
    (chosenFile? first.1 asked ≠ chosenFile? env asked ↔ TurnsElsewhere tree env asked) ∧
      (Repeats tree env asked → ∀ n, readings tree env asked n = first) ∧
      (¬ Refused first.2 → ¬ Refused second.2 → ∀ n, readings tree env asked (n + 1) = second) ∧
      (Repeats tree env none → ∀ retired requests broker broker' ending seconds seconds',
        let begun := (⟨env, none, retired⟩ : Service).start none tree broker seconds
        let ended := ((begun.service.run requests).stop ending).1
        let again := ended.start none tree broker' seconds'
        (∀ request ∈ requests, request.isStart = false) →
          again.service.configuration? = begun.service.configuration? ∧
            ∀ fault, again.result = .error fault ↔ begun.result = .error fault) := by
  intro first second
  refine ⟨chosenFile?_load_ne_iff, fun hRepeats => readings_of_load rfl hRepeats.load_load, ?_, ?_⟩
  · intro hFirst hSecond n
    rw [readings_succ]
    exact readings_of_load rfl (load_load_load hFirst hSecond) n
  · intro hRepeats retired requests broker broker' ending seconds seconds' begun ended again
      hNoStart
    obtain ⟨hLeft, hBegun, hFault⟩ := Service.reads_start (s := ⟨env, none, retired⟩) rfl none tree
      broker seconds
    obtain ⟨-, hAgain, hFault'⟩ := Service.reads_start
      (Service.receiver_stop ending (begun.service.run requests)) none tree broker' seconds'
    have hEnvironment : ended.environment = (load tree env none).1 :=
      calc ended.environment
        _ = (begun.service.run requests).environment := Service.environment_stop ending _
        _ = begun.service.environment := Service.environment_run hNoStart
        _ = (load tree env none).1 := hLeft
    have hRead : Service.settings tree ended.environment none =
        Service.settings tree env none := by
      rw [hEnvironment]
      exact hRepeats.load_load
    refine ⟨?_, fun fault => ?_⟩
    · rw [hBegun, hAgain, hRead]
    · rw [hFault, hFault', hRead]

attribute [local instance] Host.usual

/-- A file that adds a variable, which all readings have, and a service that is started again. -/
theorem load_again_with_host :
    let tree := Tree.empty.putFile (.ofText ".env") "MQTT_BROKER_HOST=other\n"
    let first := load tree [] none
    let second := load tree first.1 none
    let begun := (⟨[], none, none⟩ : Service).start none tree .welcoming 0
    let ended := ((begun.service.run [.drop 7, .acknowledge 0]).stop .welcoming).1
    let again := ended.start none tree .welcoming 1
    first.1 = [("MQTT_BROKER_HOST", "other")] ∧ first.2.map (·.brokerHost) = .ok (.text "other") ∧
      Repeats tree [] none ∧ ¬ Refused first.2 ∧ ¬ Refused second.2 ∧
      ¬ TurnsElsewhere tree [] none ∧ (∀ n, readings tree [] none n = first) ∧
      (∀ n, readings tree [] none (n + 1) = second) ∧
      again.service.configuration? = begun.service.configuration? ∧
      ∀ fault, again.result = .error fault ↔ begun.result = .error fault := by
  intro tree first second begun ended again
  have hUsual : chosenFile? [] none = some usualFile := by decide
  have hAdded : addFile tree [] none = ([("MQTT_BROKER_HOST", "other")], .ok ()) := by
    have hVariables : variablesOf tree [] (some usualFile) =
        [("MQTT_BROKER_HOST", some "other")] := by decide +kernel
    rw [addFile_of_content hUsual rfl, hVariables]
    simp only [addVariables, checkVariable_eq]
    decide +kernel
  have hLeft : first.1 = [("MQTT_BROKER_HOST", "other")] := by rw [load_fst, hAdded]
  have hHost : first.2.map (·.brokerHost) = .ok (.text "other") := by
    simp only [first, load, hAdded]
    decide +kernel
  have hFirst : ¬ Refused first.2 := by
    rw [refused_load_iff, hAdded]
    rintro ⟨fault, hFault, -⟩
    cases hFault
  have hSame : chosenFile? first.1 none = chosenFile? [] none := by
    rw [hLeft]
    decide
  have hRepeats : Repeats tree [] none := ⟨hSame, fun h => absurd h hFirst⟩
  have hSecond : ¬ Refused second.2 := by
    simp only [second, first, hRepeats.load_load]
    exact hFirst
  obtain ⟨hElsewhere, hReadings, hLater, hService⟩ := load_again tree [] none
  have hNoStart : ∀ request ∈ [.drop 7, .acknowledge 0], Service.Request.isStart request = false :=
    by decide
  obtain ⟨hSettings, hFaults⟩ :=
    hService hRepeats none _ .welcoming .welcoming .welcoming 0 1 hNoStart
  exact ⟨hLeft, hHost, hRepeats, hFirst, hSecond, fun h => hElsewhere.mpr h hSame,
    hReadings hRepeats, hLater hFirst hSecond, hSettings, hFaults⟩

/-- A file that names another one to read; and one of which a variable is refused, after the one
that switches files off. -/
theorem load_differs :
    let named := (Tree.empty.putFile (.ofText ".env") "DATALOGGER_ENV_FILE=other.env\n").putFile
      (.ofText "other.env") "MQTT_BROKER_HOST=second\n"
    let refused := Tree.empty.putFile (.ofText ".env") "PYTHON_DOTENV_DISABLED=1\n'A=B'=x\n"
    let host tree env := (load tree env none).2.map (·.brokerHost)
    host named [] = .ok (.text "localhost") ∧
      host named (load named [] none).1 = .ok (.text "second") ∧
      host refused [] = .error .illegalName ∧
      host refused (load refused [] none).1 = .ok (.text "localhost") := by
  intro named refused host
  have hUsual : chosenFile? [] none = some usualFile := by decide
  have hOther : chosenFile? [(fileVariable, "other.env")] none = some "other.env" := by decide
  have hNamed : addFile named [] none = ([(fileVariable, "other.env")], .ok ()) := by
    have hVariables : variablesOf named [] (some usualFile) =
        [(fileVariable, some "other.env")] := by decide +kernel
    rw [addFile_of_content hUsual rfl, hVariables]
    simp only [addVariables, checkVariable_eq]
    decide +kernel
  have hNext : addFile named [(fileVariable, "other.env")] none =
      ([(fileVariable, "other.env"), ("MQTT_BROKER_HOST", "second")], .ok ()) := by
    have hVariables : variablesOf named [(fileVariable, "other.env")] (some "other.env") =
        [("MQTT_BROKER_HOST", some "second")] := by decide +kernel
    rw [addFile_of_content hOther rfl, hVariables]
    simp only [addVariables, checkVariable_eq]
    decide +kernel
  have hRefused : addFile refused [] none = ([(switchVariable, "1")], .error .illegalName) := by
    have hVariables : variablesOf refused [] (some usualFile) =
        [(switchVariable, some "1"), ("A=B", some "x")] := by decide +kernel
    rw [addFile_of_content hUsual rfl, hVariables]
    simp only [addVariables, checkVariable_eq]
    decide +kernel
  have hOff : addFile refused [(switchVariable, "1")] none = ([(switchVariable, "1")], .ok ()) := by
    decide +kernel
  simp only [host, load, hNamed, hNext, hRefused, hOff]
  decide +kernel

end Settings

end TelemetryLog
