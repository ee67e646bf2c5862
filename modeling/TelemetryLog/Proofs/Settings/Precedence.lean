import TelemetryLog.Proofs.CommandLine
import TelemetryLog.Proofs.Table.Cells

/-! Where the settings come from. The text behind a setting is what the environment has for its
variable, be it empty; else what the file of variables has; else the usual text. What the command
line gives goes before all of these. A file of variables that is missing counts as empty, but for
one whose name is too long to look for it. -/

namespace TelemetryLog

namespace EnvFile

/-- The value of a name in a file of variables. A name without a value has none. -/
def value? (bindings : List Binding) (name : String) : Option String := (bindings.lookup name).join

theorem value?_cons (name other : String) (value : Option String) (rest : List Binding) :
    value? ((other, value) :: rest) name = if name = other then value else value? rest name := by
  unfold value?
  rw [List.lookup_cons]
  by_cases h : name = other
  · simp [h]
  · simp [h, beq_eq_false_iff_ne.mpr h]

theorem value?_of_notMem {bindings : List Binding} {name : String}
    (h : name ∉ bindings.map Prod.fst) : value? bindings name = none := by
  have hNone : bindings.lookup name = none := by
    refine List.lookup_eq_none_iff.mpr fun binding hBinding => bne_iff_ne.mpr ?_
    rintro rfl
    exact h (List.mem_map_of_mem hBinding)
  rw [value?, hNone]
  rfl

theorem names_bind (name : String) (value : Option String) (bindings : List Binding) :
    (bind name value bindings).map Prod.fst =
      if name ∈ bindings.map Prod.fst then bindings.map Prod.fst
      else bindings.map Prod.fst ++ [name] := by
  induction bindings with
  | nil => simp [bind]
  | cons binding rest ih =>
    obtain ⟨other, old⟩ := binding
    rw [bind]
    by_cases h : other = name
    · simp [h]
    · rw [if_neg h, List.map_cons, ih]
      by_cases hRest : name ∈ rest.map Prod.fst <;> simp_all [Ne.symm h]

theorem nodup_bind {bindings : List Binding} (h : (bindings.map Prod.fst).Nodup) (name : String)
    (value : Option String) : ((bind name value bindings).map Prod.fst).Nodup := by
  rw [names_bind]
  split
  · exact h
  · rename_i hNew
    refine List.nodup_append.mpr ⟨h, by simp, fun other hOther last hLast => ?_⟩
    rw [List.mem_singleton.mp hLast]
    rintro rfl
    exact hNew hOther

theorem nodup_foldl_bind (value : List Binding → Binding → Option String)
    (bindings : List Binding) {done : List Binding} (h : (done.map Prod.fst).Nodup) :
    ((bindings.foldl (fun done binding => bind binding.1 (value done binding) done) done).map
      Prod.fst).Nodup := by
  induction bindings generalizing done with
  | nil => exact h
  | cons binding rest ih => exact ih (nodup_bind h _ _)

/-- A file of variables binds each of its names once. -/
theorem nodup_expanded (env : Environment) (content : String) :
    ((expanded env content).map Prod.fst).Nodup :=
  nodup_foldl_bind (fun done binding => binding.2.map (expand (resolve env done)))
    (bindings content) List.nodup_nil

end EnvFile

namespace Settings

open EnvFile

/-- Whether a variable of a file can be put into an environment, if it has a value. -/
def isValid (binding : Binding) : Bool :=
  binding.2.all fun value =>
    binding.1.toList.all (fun c => c ≠ '\x00' && c ≠ '=') && value.toList.all (· ≠ '\x00')

theorem checkVariable_of_isValid {name value : String}
    (h : isValid (name, some value) = true) : checkVariable name value = .ok () := by
  simp only [isValid, Option.all_some, Bool.and_eq_true, List.all_eq_true, decide_eq_true_eq] at h
  obtain ⟨hName, hValue⟩ := h
  have hNul : '\x00' ∉ name.toList := fun hMember => (hName _ hMember).1 rfl
  have hEquals : '=' ∉ name.toList := fun hMember => (hName _ hMember).2 rfl
  have hValueNul : '\x00' ∉ value.toList := fun hMember => hValue _ hMember rfl
  simp [checkVariable, String.contains_char_eq, hNul, hEquals, hValueNul]

theorem get?_setIfAbsent (env : Environment) (name other value : String) :
    (env.setIfAbsent other value).get? name =
      (env.get? name).or (if name = other then some value else none) := by
  unfold Environment.setIfAbsent
  cases hOther : env.get? other with
  | some old =>
    by_cases h : name = other
    · simp [h, hOther]
    · simp [h]
  | none =>
    have hLast : List.lookup name [(other, value)] = if name = other then some value else none := by
      rw [List.lookup_cons]
      by_cases h : name = other
      · simp [h]
      · simp [h, beq_eq_false_iff_ne.mpr h]
    rw [Environment.get?, List.lookup_append, hLast]
    rfl

/-- What the variables of a file make of an environment: each variable that is not there comes from
the file. -/
theorem addVariables_of_valid (env : Environment) {bindings : List Binding}
    (hNames : (bindings.map Prod.fst).Nodup)
    (hValid : ∀ binding ∈ bindings, isValid binding = true) :
    (addVariables env bindings).2 = .ok () ∧
      ∀ name, (addVariables env bindings).1.get? name =
        (env.get? name).or (value? bindings name) := by
  induction bindings generalizing env with
  | nil => exact ⟨rfl, fun name => by simp [addVariables, value?]⟩
  | cons binding rest ih =>
    obtain ⟨other, value⟩ := binding
    obtain ⟨hOther, hRest⟩ := List.nodup_cons.mp hNames
    obtain ⟨hFirst, hLater⟩ := List.forall_mem_cons.mp hValid
    have hNotLater := value?_of_notMem hOther
    cases value with
    | none =>
      obtain ⟨hDone, hText⟩ := ih env hRest hLater
      refine ⟨hDone, fun name => ?_⟩
      rw [addVariables, hText, value?_cons]
      split
      · rename_i hName
        rw [hName, hNotLater]
      · rfl
    | some value =>
      cases hOld : env.get? other with
      | some old =>
        obtain ⟨hDone, hText⟩ := ih env hRest hLater
        have hSkip : addVariables env ((other, some value) :: rest) = addVariables env rest := by
          rw [addVariables, if_pos (by rw [hOld]; rfl)]
        rw [hSkip]
        refine ⟨hDone, fun name => ?_⟩
        rw [hText, value?_cons]
        split
        · rename_i hName
          rw [hName, hOld, Option.some_or, Option.some_or]
        · rfl
      | none =>
        have hCheck := checkVariable_of_isValid hFirst
        have hSet : addVariables env ((other, some value) :: rest) =
            addVariables (env.setIfAbsent other value) rest := by
          rw [addVariables, if_neg (by rw [hOld]; exact Bool.false_ne_true), hCheck]
        obtain ⟨hDone, hText⟩ := ih (env.setIfAbsent other value) hRest hLater
        rw [hSet]
        refine ⟨hDone, fun name => ?_⟩
        rw [hText, get?_setIfAbsent, value?_cons, Option.or_assoc]
        split
        · rename_i hName
          rw [hName, hNotLater, Option.or_none]
        · rw [Option.none_or]

/-- The file of variables that is read: the one that is asked for, if its name is not empty; else
the one that the environment names, where an empty name stands for no file; else the usual one. -/
inductive IsChosen (env : Environment) (asked : Option String) : Option String → Prop
  | asked {file : String} (hAsked : asked = some file) (hName : file ≠ "") :
      IsChosen env asked (some file)
  | named {file : String} (hAsked : asked = none ∨ asked = some "")
      (hNamed : env.get? fileVariable = some file) (hName : file ≠ "") :
      IsChosen env asked (some file)
  | noFile (hAsked : asked = none ∨ asked = some "")
      (hNamed : env.get? fileVariable = some "") : IsChosen env asked none
  | usual (hAsked : asked = none ∨ asked = some "") (hNamed : env.get? fileVariable = none) :
      IsChosen env asked (some usualFile)

theorem isChosen_iff {env : Environment} {asked chosen : Option String} :
    IsChosen env asked chosen ↔ chosenFile? env asked = chosen := by
  have hUsual : usualFile ≠ "" := by decide
  constructor
  · intro h
    cases h with
    | asked hAsked hName => simp [chosenFile?, hAsked, Option.filter, hName]
    | named hAsked hNamed hName =>
      obtain rfl | rfl := hAsked <;>
        simp [chosenFile?, Option.filter, Environment.getD, hNamed, hName]
    | noFile hAsked hNamed =>
      obtain rfl | rfl := hAsked <;> simp [chosenFile?, Option.filter, Environment.getD, hNamed]
    | usual hAsked hNamed =>
      obtain rfl | rfl := hAsked <;>
        simp [chosenFile?, Option.filter, Environment.getD, hNamed, hUsual]
  · rintro rfl
    by_cases hAsked : asked = none ∨ asked = some ""
    · have hOther : chosenFile? env asked =
          (some (env.getD fileVariable usualFile)).filter (· ≠ "") := by
        obtain rfl | rfl := hAsked <;> simp [chosenFile?, Option.filter]
      rw [hOther, Environment.getD]
      cases hNamed : env.get? fileVariable with
      | none => exact .usual hAsked hNamed
      | some file =>
        by_cases hName : file = ""
        · subst hName
          exact .noFile hAsked hNamed
        · have hKept : (some file).filter (· ≠ "") = some file := by simp [Option.filter, hName]
          rw [Option.getD_some, hKept]
          exact .named hAsked hNamed hName
    · obtain ⟨hGiven, hName⟩ := not_or.mp hAsked
      obtain ⟨file, rfl⟩ := Option.ne_none_iff_exists'.mp hGiven
      have hFile : file ≠ "" := fun hEmpty => hName (congrArg some hEmpty)
      have hChosen : chosenFile? env (some file) = some file := by
        simp [chosenFile?, Option.filter, hFile]
      rw [hChosen]
      exact .asked rfl hFile

/-- A name of a file that is too long, or has a part that is, to be looked up. -/
def IsOverlong (tree : Tree) (file : String) : Prop :=
  (Path.ofText file).hasNul = false ∧ tree.locate (.ofText file) = .error .nameTooLong

/-- What is read of the file of variables that is chosen, if there is one. -/
def variablesOf (tree : Tree) (env : Environment) (chosen : Option String) : List Binding :=
  match chosen with
  | none => []
  | some file =>
    match contentOf tree file with
    | .error _ => []
    | .ok content => if isFileOff env then [] else expanded env content

theorem contentOf_eq_error_iff {tree : Tree} {file : String} {fault : SettingsFault} :
    contentOf tree file = .error fault ↔
      IsOverlong tree file ∧ fault = .unusableFile ⟨.nameTooLong, .ofText file⟩ := by
  simp only [contentOf, IsOverlong, Tree.find]
  cases hNul : (Path.ofText file).hasNul with
  | true => simp
  | false =>
    cases hPath : tree.locate (.ofText file) with
    | ok here => simp
    | error cause =>
      cases cause with
      | nameTooLong =>
        simp only [Bool.false_eq_true, if_false, Except.error.injEq, true_and]
        exact eq_comm
      | _ => simp

theorem contentOf_of_missing {tree : Tree} {file : String}
    (h : tree.find (.ofText file) = .ok none) : contentOf tree file = .ok "" := by
  have hNothing : tree.readNamed? file = none := by
    unfold Tree.find at h
    unfold Tree.readNamed? Tree.readFile?
    split
    · rfl
    · split at h
      · rename_i here hPath
        simp only [Except.ok.injEq] at h
        simp [hPath, Tree.content?, h]
      · cases h
      · rename_i cause hPath
        simp [hPath]
  simp [contentOf, h, hNothing]

/-- The variables of the settings that are whole numbers, each with the usual text. -/
def integerVariables : List (String × String) :=
  [("MQTT_BROKER_PORT", "1883"), ("MQTT_QOS", "1"), ("STATS_LOG_EVERY", "100")]

/-- Why a text that is refused as a whole number makes no setting. -/
def noInteger (text : String) : Text.NumeralFault → SettingsFault
  | .malformed => .notInteger text
  | .tooLong count => .tooManyDigits count

/-- A variable for a whole number has a text that is none, for which there are no settings. -/
def RefusesInteger (text? : String → Option String) (fault : SettingsFault) : Prop :=
  ∃ entry ∈ integerVariables, ∃ refusal,
    let text := (text? entry.1).getD entry.2
    Text.configuredInteger text.toList = .error refusal ∧ fault = noInteger text refusal

/-- The settings come from the texts of the variables, or else from the usual texts, and from a
command line before that. An empty name or password is none. -/
structure DrawnFrom (args : Arguments) (text? : String → Option String) (settings : Settings) :
    Prop where
  brokerHost : settings.brokerHost = .text ((text? "MQTT_BROKER_HOST").getD "localhost")
  brokerPort : ∃ i, Text.configuredInteger ((text? "MQTT_BROKER_PORT").getD "1883").toList = .ok i ∧
    settings.brokerPort = some i
  transport : settings.transport = .text (word ((text? "MQTT_TRANSPORT").getD "tcp"))
  wsPath : settings.wsPath = .text ((text? "MQTT_WS_PATH").getD "/mqtt")
  useTls : settings.useTls = some (onWords.contains (word ((text? "MQTT_USE_TLS").getD "false")))
  username : settings.username = (text? "MQTT_USERNAME").filter (· ≠ "")
  password : settings.password = (text? "MQTT_PASSWORD").filter (· ≠ "")
  topic : settings.topic = args.topic.getD (.text ((text? "MQTT_TOPIC").getD "#"))
  qos : ∃ i, Text.configuredInteger ((text? "MQTT_QOS").getD "1").toList = .ok i ∧
    settings.qos = some i
  clientId : settings.clientId = .text ((text? "MQTT_CLIENT_ID").getD "datalogger-subscriber")
  outputFolder : settings.outputFolder =
    args.outputFolder.getD (.text ((text? "DATALOG_OUTPUT_FOLDER").getD "Datalog"))
  outputFile : settings.outputFile =
    args.outputFile.getD (.text ((text? "DATALOG_OUTPUT_FILE").getD "datalog.csv"))
  logLevel : settings.logLevel = String.ofList (Text.capitals
    ((args.logLevel.bind GivenText.nonEmpty?).getD ((text? "LOG_LEVEL").getD "INFO")).toList)
  statsEvery : Text.configuredInteger ((text? "STATS_LOG_EVERY").getD "100").toList =
    .ok settings.statsEvery

variable {env : Environment} {text? : String → Option String} {settings : Settings}

theorem configuredInteger_of_integer {name usual : String} {i : Int}
    (h : integer env name usual = .ok i) :
    Text.configuredInteger ((env.get? name).getD usual).toList = .ok i := by
  unfold integer Environment.getD at h
  dsimp only at h
  split at h <;> simp_all

theorem refusesInteger_of_integer {name usual : String} {fault : SettingsFault}
    (hVariable : (name, usual) ∈ integerVariables) (h : integer env name usual = .error fault) :
    RefusesInteger env.get? fault := by
  unfold integer Environment.getD at h
  dsimp only at h
  split at h
  · cases h
  · rename_i hRefused
    exact ⟨_, hVariable, _, hRefused, (Except.error.inj h).symm⟩
  · rename_i count hRefused
    exact ⟨_, hVariable, _, hRefused, (Except.error.inj h).symm⟩

/-- The settings of an environment: they are drawn from it, unless it has no whole number where one
belongs. -/
theorem ofEnvironment_spec (env : Environment) :
    match ofEnvironment env with
    | .ok settings => DrawnFrom .none env.get? settings
    | .error fault => RefusesInteger env.get? fault := by
  unfold ofEnvironment
  cases hPort : integer env "MQTT_BROKER_PORT" "1883" with
  | error fault => exact refusesInteger_of_integer (by simp [integerVariables]) hPort
  | ok port =>
    cases hQos : integer env "MQTT_QOS" "1" with
    | error fault => exact refusesInteger_of_integer (by simp [integerVariables]) hQos
    | ok qos =>
      cases hStats : integer env "STATS_LOG_EVERY" "100" with
      | error fault => exact refusesInteger_of_integer (by simp [integerVariables]) hStats
      | ok statsEvery =>
        exact {
          brokerHost := rfl
          brokerPort := ⟨port, configuredInteger_of_integer hPort, rfl⟩
          transport := rfl
          wsPath := rfl
          useTls := rfl
          username := rfl
          password := rfl
          topic := rfl
          qos := ⟨qos, configuredInteger_of_integer hQos, rfl⟩
          clientId := rfl
          outputFolder := rfl
          outputFile := rfl
          logLevel := rfl
          statsEvery := configuredInteger_of_integer hStats }

theorem DrawnFrom.override (h : DrawnFrom .none text? settings) (args : Arguments) :
    DrawnFrom args text? (settings.override args) :=
  { h with
    topic := congrArg args.topic.getD h.topic
    outputFolder := congrArg args.outputFolder.getD h.outputFolder
    outputFile := congrArg args.outputFile.getD h.outputFile
    logLevel := by
      have hLevel := h.logLevel
      simp only [Settings.override]
      cases args.logLevel.bind GivenText.nonEmpty? with
      | none => exact hLevel
      | some level => rfl }

theorem DrawnFrom.not_refusesInteger {args : Arguments} (h : DrawnFrom args text? settings)
    (fault : SettingsFault) : ¬ RefusesInteger text? fault := by
  rintro ⟨entry, hEntry, refusal, hRefused, -⟩
  obtain ⟨port, hPort, -⟩ := h.brokerPort
  obtain ⟨qos, hQos, -⟩ := h.qos
  simp only [integerVariables, List.mem_cons, List.not_mem_nil, or_false] at hEntry
  obtain rfl | rfl | rfl := hEntry
  · cases hPort.symm.trans hRefused
  · cases hQos.symm.trans hRefused
  · cases h.statsEvery.symm.trans hRefused

section File

variable {tree : Tree} {asked : Option String}

theorem addFile_of_overlong {file : String} (hChosen : chosenFile? env asked = some file)
    (hLong : IsOverlong tree file) :
    addFile tree env asked = (env, .error (.unusableFile ⟨.nameTooLong, .ofText file⟩)) := by
  simp only [addFile, hChosen, contentOf_eq_error_iff.mpr ⟨hLong, rfl⟩]

/-- A file that can be looked up adds its variables. -/
theorem addFile_of_valid
    (hUsable : ∀ file, chosenFile? env asked = some file → ¬ IsOverlong tree file)
    (hValid : ∀ binding ∈ variablesOf tree env (chosenFile? env asked), isValid binding = true) :
    (addFile tree env asked).2 = .ok () ∧
      ∀ name, (addFile tree env asked).1.get? name =
        (env.get? name).or (value? (variablesOf tree env (chosenFile? env asked)) name) := by
  have hNothing : ∀ name, env.get? name = (env.get? name).or (value? [] name) := by simp [value?]
  unfold addFile
  unfold variablesOf at hValid ⊢
  cases hChosen : chosenFile? env asked with
  | none => exact ⟨rfl, hNothing⟩
  | some file =>
    simp only [hChosen] at hValid ⊢
    cases hContent : contentOf tree file with
    | error fault =>
      exact absurd (contentOf_eq_error_iff.mp hContent).1 (hUsable file hChosen)
    | ok content =>
      simp only [hContent] at hValid ⊢
      split at hValid
      · rename_i hOff
        rw [if_pos hOff, if_pos hOff]
        exact ⟨rfl, hNothing⟩
      · rename_i hOn
        rw [if_neg hOn, if_neg hOn]
        exact addVariables_of_valid env (nodup_expanded env content) hValid

theorem variablesOf_of_missing (env : Environment) {file : String}
    (h : tree.find (.ofText file) = .ok none) : variablesOf tree env (some file) = [] := by
  simp only [variablesOf, contentOf_of_missing h]
  split <;> rfl

/-- The order in which settings are looked for, if all variables of the file can be put into the
environment. The file is the one that `IsChosen` says, and counts as empty if it is missing. Unless
its name is too long to look for it, each variable has the text of the environment, even if that is
empty, or else of the file; what the settings are is drawn from those texts, the usual ones and the
command line, and there are none exactly if one of the three whole numbers is refused. -/
theorem precedence (tree : Tree) (env : Environment) (asked : Option String) (args : Arguments)
    (hValid : ∀ binding ∈ variablesOf tree env (chosenFile? env asked), isValid binding = true) :
    let chosen := chosenFile? env asked
    let text? name := (env.get? name).or (value? (variablesOf tree env chosen) name)
    let loaded := load tree env asked
    (∀ file, IsChosen env asked file ↔ chosen = file) ∧
      (∀ file, tree.find (.ofText file) = .ok none → variablesOf tree env (some file) = []) ∧
      (∀ file, chosen = some file → IsOverlong tree file →
        loaded = (env, .error (.unusableFile ⟨.nameTooLong, .ofText file⟩))) ∧
      ((∀ file, chosen = some file → ¬ IsOverlong tree file) →
        (∀ name, loaded.1.get? name = text? name) ∧
        (∀ settings, loaded.2 = .ok settings →
          DrawnFrom .none text? settings ∧ DrawnFrom args text? (settings.override args)) ∧
        (∀ fault, loaded.2 = .error fault → RefusesInteger text? fault) ∧
        ((∃ fault, loaded.2 = .error fault) ↔ ∃ fault, RefusesInteger text? fault)) := by
  intro chosen text? loaded
  refine ⟨fun file => isChosen_iff, fun file => variablesOf_of_missing env, ?_, fun hUsable => ?_⟩
  · intro file hChosen hLong
    simp only [loaded, load, addFile_of_overlong hChosen hLong]
  · obtain ⟨hAdded, hText⟩ := addFile_of_valid hUsable hValid
    have hLoaded : loaded =
        ((addFile tree env asked).1, ofEnvironment (addFile tree env asked).1) := by
      simp only [loaded, load]
      split
      · rename_i hFile
        rw [hFile]
      · rename_i hFile
        rw [hFile] at hAdded
        cases hAdded
    have hTexts : (addFile tree env asked).1.get? = text? := funext hText
    have hSpec := ofEnvironment_spec (addFile tree env asked).1
    rw [hTexts] at hSpec
    simp only [hLoaded]
    cases hSettings : ofEnvironment (addFile tree env asked).1 with
    | ok settings =>
      simp only [hSettings] at hSpec
      refine ⟨hText, ?_, fun fault hFault => (by cases hFault), ⟨?_, ?_⟩⟩
      · rintro _ ⟨⟩
        exact ⟨hSpec, hSpec.override args⟩
      · rintro ⟨fault, hFault⟩
        cases hFault
      · rintro ⟨fault, hRefuses⟩
        exact absurd hRefuses (hSpec.not_refusesInteger fault)
    | error fault =>
      simp only [hSettings] at hSpec
      refine ⟨hText, fun settings hOk => (by cases hOk), ?_,
        ⟨fun _ => ⟨fault, hSpec⟩, fun _ => ⟨fault, rfl⟩⟩⟩
      rintro _ ⟨⟩
      exact hSpec

end File

attribute [local instance] Host.usual

/-- A topic that the environment leaves empty goes before that of the file, from which the other
texts come. The command line gives an empty name for the log, which counts, and an empty level,
which does not. -/
theorem precedence_sampled :
    let tree := Tree.empty.putFile (.ofText "my.env") "MQTT_TOPIC=file\nMQTT_QOS=2"
    let env : Environment := [("MQTT_TOPIC", "")]
    let args : Arguments :=
      { Arguments.none with outputFile := some (.text ""), logLevel := some (.text "") }
    let added := variablesOf tree env (some "my.env")
    let text? name := (env.get? name).or (value? added name)
    added = [("MQTT_TOPIC", some "file"), ("MQTT_QOS", some "2")] ∧
      (∀ binding ∈ added, isValid binding = true) ∧
      ∃ settings, (load tree env (some "my.env")).2 = .ok settings ∧
        DrawnFrom args text? (settings.override args) := by
  intro tree env args added text?
  have hAdded : added = [("MQTT_TOPIC", some "file"), ("MQTT_QOS", some "2")] := by
    decide +kernel
  have hValid : ∀ binding ∈ added, isValid binding = true := by
    rw [hAdded]
    decide +kernel
  have hShort : ¬ IsOverlong tree "my.env" := by
    unfold IsOverlong
    decide +kernel
  have hChosen : chosenFile? env (some "my.env") = some "my.env" := by decide +kernel
  obtain ⟨-, -, -, hLoaded⟩ := precedence tree env (some "my.env") args (hChosen ▸ hValid)
  obtain ⟨-, hDrawn, hRefused, -⟩ := hLoaded fun file hFile => by
    rw [hChosen] at hFile
    cases hFile
    exact hShort
  rw [hChosen] at hRefused
  have hIntegers : ∀ entry ∈ integerVariables,
      (Text.configuredInteger ((text? entry.1).getD entry.2).toList).isOk = true := by
    simp only [text?, hAdded]
    decide +kernel
  refine ⟨hAdded, hValid, ?_⟩
  cases hSettings : (load tree env (some "my.env")).2 with
  | error fault =>
    obtain ⟨entry, hEntry, refusal, hRefusal, -⟩ := hRefused fault hSettings
    have hInteger := hIntegers entry hEntry
    simp only [text?, added, hRefusal, Except.isOk, Except.toBool, Bool.false_eq_true] at hInteger
  | ok settings =>
    have hArgs := (hDrawn settings hSettings).2
    rw [hChosen] at hArgs
    exact ⟨settings, rfl, hArgs⟩

/-- A file in the empty directory cannot be looked up if its own name is too long. -/
theorem isOverlong_of_name {file : String} (hSlash : '/' ∉ file.toList)
    (hNul : '\x00' ∉ file.toList)
    (hBytes : Tree.greatestName < (Text.Utf8.encode file.toList).length) :
    IsOverlong .empty file := by
  have hNe : ∀ short : String,
      (Text.Utf8.encode short.toList).length ≤ Tree.greatestName → file ≠ short := by
    rintro short hShort rfl
    exact absurd hBytes (Nat.not_lt.mpr hShort)
  have hPart : Path.namesPart file.toList = true := by
    have hSome : file.toList ≠ [] := fun h =>
      hNe "" (by decide +kernel) (String.toList_inj.mp h)
    have hDot : file.toList ≠ ['.'] := fun h =>
      hNe "." (by decide +kernel) (String.toList_inj.mp h)
    simp [Path.namesPart, hSome, hDot]
  have hRoot : Path.rootOf file.toList = .here := by
    unfold Path.rootOf
    split <;> simp_all
  have hPath : Path.ofText file = ⟨.here, [file]⟩ := by
    have hPieces : Text.splitAt '/' file.toList = [file.toList] :=
      Text.splitAt_joinWith (List.cons_ne_nil file.toList []) (by simpa using hSlash)
    rw [Path.ofText, hPieces, List.filter_cons_of_pos hPart, hRoot]
    simp
  constructor
  · rw [Path.hasNul, hPath, Path.chars]
    split
    · decide
    · simpa [Path.rootChars, Text.joinWith] using hNul
  · unfold Tree.locate
    split
    · rfl
    · have hUp : file ≠ ".." := hNe ".." (by decide +kernel)
      rw [hPath]
      simp [Tree.empty, Tree.walk, hUp, hBytes, Node.emptyDirectory]

/-- There are no settings for a file whose name is too long to look for it, although there is no
such file and the usual texts would do. -/
theorem load_overlong :
    let file := String.ofList (List.replicate 256 'a')
    IsChosen [] (some file) (some file) ∧ Tree.empty.readNamed? file = none ∧
      (ofEnvironment []).isOk = true ∧
      load .empty [] (some file) =
        ([], .error (.unusableFile ⟨.nameTooLong, .ofText file⟩)) := by
  -- the text is costly to compare: of it, only its characters are used
  suffices h : ∀ file : String, file.toList = List.replicate 256 'a' →
      IsChosen [] (some file) (some file) ∧ Tree.empty.readNamed? file = none ∧
        (ofEnvironment []).isOk = true ∧
        load .empty [] (some file) =
          ([], .error (.unusableFile ⟨.nameTooLong, .ofText file⟩)) from
    h _ String.toList_ofList
  intro file hChars
  have hLong : IsOverlong .empty file := by
    apply isOverlong_of_name
    · rw [hChars, List.mem_replicate]
      decide
    · rw [hChars, List.mem_replicate]
      decide
    · rw [hChars]
      decide +kernel
  have hName : file ≠ "" := by
    rintro rfl
    cases hChars
  have hChosen : chosenFile? [] (some file) = some file := by
    simp [chosenFile?, Option.filter, hName]
  refine ⟨isChosen_iff.mpr hChosen, ?_, by decide +kernel, ?_⟩
  · simp [Tree.readNamed?, Tree.readFile?, hLong.2]
  · simp only [load, addFile_of_overlong hChosen hLong]

end Settings

end TelemetryLog
