import TelemetryLog.Proofs.CommandLine.Values
import TelemetryLog.Proofs.Intake.Balance
import TelemetryLog.Proofs.Intake.Muted
import TelemetryLog.Proofs.Run

/-! What the log level makes of a run. Command lines that give different levels and agree in all
else make no difference to the exit code, the calls and the files of a run, and none to its journal
but that it is filtered; unless there are messages that cannot be told of. -/

namespace TelemetryLog

/-- The name under which a level that is written on the command line is looked up: no case is told
apart. -/
def Threshold.nameOf (level : String) : String := String.ofList (Text.capitals level.toList)

/-- The threshold for which a level stands. -/
def Threshold.ofLevel (level : String) : Threshold :=
  ⟨(weights.lookup (nameOf level)).getD Level.info.weight⟩

def Settings.atLevel (level : String) (settings : Settings) : Settings :=
  { settings with logLevel := level }

/-- The end of a run with that of its journal which a threshold lets through. -/
def Finish.keptBy (threshold : Threshold) (finish : Finish) : Finish :=
  { finish with trace := { finish.trace with journal := threshold.filter finish.trace.journal } }

theorem Finish.keptBy_everything (finish : Finish) : finish.keptBy .everything = finish := by
  rw [keptBy, Threshold.filter_everything]

/-- A command line that gives a log level, and else reads as `read` says. The level is a text that
is not empty and is no name for something else. -/
structure Arguments.GivesLevel [Host] (read : Except ArgumentFault Arguments) (level : String)
    (arguments : List String) : Prop where
  parse : Arguments.parse arguments =
    read.map fun args => { args with logLevel := some (.text level) }
  nonEmpty : level ≠ ""
  unreserved : Threshold.reserved.lookup (Threshold.nameOf level) = .none

/-- Command lines that are written alike but for the level give their levels and agree in all else,
if the option for it does not come again. -/
theorem Arguments.givesLevel_of_writes [Host] {before after piece : List String}
    (hDashes : "--" ∉ before)
    (hLast : ∀ s ∈ after, ∀ written,
      ArgumentShape.ofArgument s ≠ .ok (.named .logLevel written))
    (level : String) (hPiece : CliOption.logLevel.Writes level piece) (hLevel : level ≠ "")
    (hUnreserved : Threshold.reserved.lookup (Threshold.nameOf level) = .none) :
    GivesLevel (parse (before ++ ["--log-level", "NOTSET"] ++ after)) level
      (before ++ piece ++ after) := by
  have hWhole : CliOption.logLevel.Writes "NOTSET" ["--log-level", "NOTSET"] :=
    .apart (by decide +kernel)
  exact ⟨parse_of_writes (by decide) hDashes hLast hPiece hWhole, hLevel, hUnreserved⟩

namespace Receiver

variable {settings : Settings} {path : Path}

/-- What a start comes to hangs neither on the threshold nor on the log level. -/
theorem start_atLevel (hPath : settings.outputPath = .ok path) (broker : Broker) (seconds : Int)
    (threshold threshold' : Threshold) (level level' : String) :
    let started := (new (settings.atLevel level) threshold).start broker seconds
    let started' := (new (settings.atLevel level') threshold').start broker seconds
    started.success = started'.success ∧ started.trace = started'.trace ∧
      started.receiver.link = started'.receiver.link := by
  have hLevel : ∀ level threshold,
      (new (settings.atLevel level) threshold).settings.outputPath = .ok path :=
    fun level threshold => hPath
  have hLink : ∀ level threshold,
      freshLink (new (settings.atLevel level) threshold).settings seconds =
        freshLink settings seconds := fun level threshold => rfl
  simp only [start, startBy_of_path (hLevel _ _), hLink, and_self]

theorem intake_start (hPath : settings.outputPath = .ok path) (threshold : Threshold)
    (broker : Broker) (seconds : Int) :
    ((new settings threshold).start broker seconds).receiver.intake =
      some (freshIntake settings threshold path) := by
  obtain ⟨link, running, -, hStarted⟩ :=
    start_of_path (r := new settings threshold) hPath broker seconds
  rw [hStarted]
  rfl

theorem journal_deliverAll [Host] {r : Receiver} {intake : Intake} (h : r.Feeds intake)
    (zone : Zone) (tree : Tree) (messages : List Message) :
    (Run.deliverAll zone tree r messages).2.2 = Desk.journalOf zone ⟨intake, tree⟩ messages := by
  induction messages generalizing r intake tree with
  | nil => rfl
  | cons m rest ih =>
    have hRest := ih (h.withIntake (Desk.take zone ⟨intake, tree⟩ m).intake)
      (Desk.take zone ⟨intake, tree⟩ m).tree
    simp only [Run.deliverAll, h.deliver_eq, Desk.journalOf]
    exact congrArg _ hRest

/-- Two receivers with the same link whose accounts agree if their journal lets information through
are stopped with the same calls, and with the same entries so far as these are let through. -/
theorem stop_alike (r r' : Receiver) (broker : Broker) {threshold : Threshold}
    {intake intake' : Intake} (hLink : r.link = r'.link) (hIntake : r.intake = some intake)
    (hIntake' : r'.intake = some intake')
    (hAccounts : threshold.weight ≤ Level.info.weight → intake.accounts = intake'.accounts) :
    (r.stop broker).trace.calls = (r'.stop broker).trace.calls ∧
      threshold.filter (r.stop broker).trace.journal =
        threshold.filter (r'.stop broker).trace.journal := by
  have hEntries : threshold.filter (stoppedEntries (some intake)) =
      threshold.filter (stoppedEntries (some intake')) := by
    by_cases hInfo : threshold.weight ≤ Level.info.weight
    · simp only [stoppedEntries, hAccounts hInfo]
    · have hAbove := Int.not_le.mp hInfo
      have hNone : ∀ intake, threshold.filter (stoppedEntries (some intake)) = [] := fun intake =>
        Threshold.filter_eq_nil_of_info hAbove fun entry hEntry => by
          rw [List.mem_singleton.mp hEntry]
          rfl
      rw [hNone, hNone]
  simp only [stop, hIntake, hIntake', hLink]
  cases r'.link with
  | none => exact ⟨rfl, hEntries⟩
  | some link =>
    refine ⟨rfl, ?_⟩
    simp only [Trace.journal_append, Threshold.filter_append, hEntries]

end Receiver

namespace Run

variable {settings : Settings} {path : Path} {threshold : Threshold}

theorem course_of_success [Host] (run : Run) (hPath : settings.outputPath = .ok path)
    (hSuccess : ((Receiver.new settings threshold).start run.broker run.seconds).success = true) :
    let started := (Receiver.new settings threshold).start run.broker run.seconds
    let desk : Desk := ⟨Receiver.freshIntake settings threshold path, run.tree⟩
    let last := desk.run run.zone (run.messages.map .message)
    let stopped := { started.receiver with intake := some last.intake }.stop run.broker
    run.course settings threshold path =
      ⟨0, ⟨[], headEntries settings path⟩ ++ started.trace ++
        (⟨[], run.ending.openingEntries ++ desk.journalOf run.zone run.messages ++
          run.ending.closingEntries⟩ ++ stopped.trace), last.tree⟩ := by
  intro started desk last stopped
  have hFeeds : started.receiver.Feeds desk.intake :=
    Receiver.feeds_start (r := .new settings threshold) hPath hSuccess
  obtain ⟨hLast, hTree⟩ := hFeeds.deliverAll run.zone run.tree run.messages
  have hJournal := Receiver.journal_deliverAll hFeeds run.zone run.tree run.messages
  simp only [course, serve]
  rw [if_pos hSuccess, hLast, hTree, hJournal]

theorem course_of_failure [Host] (run : Run)
    (hFailed : ((Receiver.new settings threshold).start run.broker run.seconds).success = false) :
    let started := (Receiver.new settings threshold).start run.broker run.seconds
    run.course settings threshold path =
      ⟨1, ⟨[], headEntries settings path⟩ ++ started.trace ++
        (started.receiver.stop run.broker).trace, run.tree⟩ := by
  simp only [course]
  rw [if_neg (by simp [hFailed])]

/-- The courses of a run at two levels, at the second of which everything is let through. -/
theorem course_atLevel [Host] (run : Run) (hPath : settings.outputPath = .ok path)
    (threshold : Threshold) (level quiet : String) :
    let course := run.course (settings.atLevel level) threshold path
    let whole := run.course (settings.atLevel quiet) .everything path
    course.exitCode = whole.exitCode ∧ course.trace.calls = whole.trace.calls ∧
      course.tree = whole.tree ∧
      threshold.Lacks course.trace.journal whole.trace.journal
        (if course.exitCode = 0 then run.messages.countP (·.isHushed threshold) else 0) := by
  have hLevel : ∀ level, (settings.atLevel level).outputPath = .ok path := fun level => hPath
  obtain ⟨hSuccess, hTrace, hLink⟩ :=
    Receiver.start_atLevel hPath run.broker run.seconds threshold .everything level quiet
  have hMuted : Desk.Muted threshold
      ⟨Receiver.freshIntake (settings.atLevel level) threshold path, run.tree⟩
      ⟨Receiver.freshIntake (settings.atLevel quiet) .everything path, run.tree⟩ :=
    ⟨rfl, rfl, fun _ => rfl, rfl, rfl⟩
  cases hStarted : ((Receiver.new (settings.atLevel level) threshold).start run.broker
      run.seconds).success with
  | true =>
    obtain ⟨hLast, hLacks⟩ := hMuted.run run.zone run.messages
    rw [course_of_success run (hLevel level) hStarted,
      course_of_success run (hLevel quiet) (hSuccess ▸ hStarted)]
    obtain ⟨hCalls, hStopped⟩ := Receiver.stop_alike
      { ((Receiver.new (settings.atLevel level) threshold).start run.broker
        run.seconds).receiver with intake := some _ }
      { ((Receiver.new (settings.atLevel quiet) .everything).start run.broker
        run.seconds).receiver with intake := some _ } run.broker hLink rfl rfl hLast.accounts
    refine ⟨rfl, ?_, hLast.tree, ?_⟩
    · simp only [Trace.calls_append, hTrace, hCalls]
    · simp only [Trace.journal_append, hTrace, if_true]
      exact (((hLacks.append_left _).append_alike rfl).append_alike hStopped).append_left _
  | false =>
    rw [course_of_failure run hStarted, course_of_failure run (hSuccess ▸ hStarted)]
    have hAccounts : threshold.weight ≤ Level.info.weight →
        (Receiver.freshIntake (settings.atLevel level) threshold path).accounts =
          (Receiver.freshIntake (settings.atLevel quiet) .everything path).accounts := fun _ => rfl
    obtain ⟨hCalls, hStopped⟩ := Receiver.stop_alike _ _ run.broker hLink
      (Receiver.intake_start (hLevel level) threshold run.broker run.seconds)
      (Receiver.intake_start (hLevel quiet) .everything run.broker run.seconds) hAccounts
    refine ⟨rfl, ?_, rfl, ?_⟩
    · simp only [Trace.calls_append, hTrace, hCalls]
    · simp only [Trace.journal_append, hTrace]
      exact (Threshold.Lacks.of_eq rfl).append_alike hStopped

/-- The settings of a run whose command line is read like this. -/
def settingsFrom (run : Run) (read : Except ArgumentFault Arguments) : Except RunFault Settings :=
  match read with
  | .error fault => .error (.arguments fault)
  | .ok given =>
    match (Settings.load run.tree run.environment given.askedFile?).2 with
    | .error fault => .error (.settings fault)
    | .ok settings => .ok (settings.override given)

section

variable [Host]
variable {read : Except ArgumentFault Arguments} {level : String} {arguments : List String}

theorem settings_of_givesLevel (run : Run) (h : Arguments.GivesLevel read level arguments) :
    { run with arguments }.settings =
      (run.settingsFrom read).map (Settings.atLevel (Threshold.nameOf level)) := by
  have hFrom : { run with arguments }.settings = run.settingsFrom (Arguments.parse arguments) := rfl
  rw [hFrom, h.parse]
  cases read with
  | error fault => rfl
  | ok given =>
    have hAsked : { given with logLevel := some (.text level) : Arguments }.askedFile? =
      given.askedFile? := rfl
    simp only [settingsFrom, Except.map, hAsked]
    split
    · rfl
    · simp [Settings.override, Settings.atLevel, GivenText.nonEmpty?, h.nonEmpty, Threshold.nameOf]

theorem settings_of_ok (run : Run) (h : Arguments.GivesLevel read level arguments)
    (hSettings : run.settingsFrom read = .ok settings) :
    { run with arguments }.settings = .ok (settings.atLevel (Threshold.nameOf level)) := by
  rw [run.settings_of_givesLevel h, hSettings]
  rfl

theorem ofName_nameOf (h : Arguments.GivesLevel read level arguments) :
    Threshold.ofName (Threshold.nameOf level) = .ok (.ofLevel level) := by
  rw [Threshold.ofName, h.unreserved]
  rfl

theorem finish_of_settings_error (run : Run) (h : Arguments.GivesLevel read level arguments)
    {fault : RunFault} (hSettings : run.settingsFrom read = .error fault) :
    { run with arguments }.finish = .error fault := by
  rw [finish, run.settings_of_givesLevel h, hSettings]
  rfl

theorem finish_of_output_error (run : Run) (h : Arguments.GivesLevel read level arguments)
    (hSettings : run.settingsFrom read = .ok settings) {fault : OutputFault}
    (hPath : settings.outputPath = .error fault) :
    { run with arguments }.finish = .error (.output fault) :=
  finish_of_no_path (run.settings_of_ok h hSettings) (ofName_nameOf h) hPath

theorem finish_of_level (run : Run) (h : Arguments.GivesLevel read level arguments)
    (hSettings : run.settingsFrom read = .ok settings) (hPath : settings.outputPath = .ok path) :
    { run with arguments }.finish = .ok ((run.course
      (settings.atLevel (Threshold.nameOf level)) (.ofLevel level) path).keptBy
        (.ofLevel level)) := by
  have hOutput : (settings.atLevel (Threshold.nameOf level)).outputPath = .ok path := hPath
  have hThreshold : Threshold.ofName (settings.atLevel (Threshold.nameOf level)).logLevel =
      .ok (.ofLevel level) := ofName_nameOf h
  simp only [finish, run.settings_of_ok h hSettings, hThreshold, hOutput]
  rfl

/-- What the journal of a run at a level is beside that of the run at which everything is let
through: it has nothing but what the level lets through of that, in order, and it has all of it
exactly if no report fails unheard of. -/
structure Filters (run : Run) (level : String) (finish whole : Finish) : Prop where
  sublist : finish.trace.journal.Sublist ((Threshold.ofLevel level).filter whole.trace.journal)
  eq_iff : finish.trace.journal = (Threshold.ofLevel level).filter whole.trace.journal ↔
    finish.exitCode ≠ 0 ∨ ∀ m ∈ run.messages, m.isHushed (.ofLevel level) = false

/-- A run at a level beside the same run at a level that lets everything through. -/
theorem finish_beside_whole (run : Run) (h : Arguments.GivesLevel read level arguments)
    {whole : List String} (hWhole : Arguments.GivesLevel read "NOTSET" whole)
    (hSettings : run.settingsFrom read = .ok settings) (hPath : settings.outputPath = .ok path) :
    ∃ finish wholeFinish, { run with arguments }.finish = .ok finish ∧
      { run with arguments := whole }.finish = .ok wholeFinish ∧
      finish.exitCode = wholeFinish.exitCode ∧ finish.trace.calls = wholeFinish.trace.calls ∧
      finish.tree = wholeFinish.tree ∧ run.Filters level finish wholeFinish := by
  have hEverything : Threshold.ofLevel "NOTSET" = .everything := by decide +kernel
  obtain ⟨hCode, hCalls, hTree, hLacks⟩ := run.course_atLevel hPath (.ofLevel level)
    (Threshold.nameOf level) (Threshold.nameOf "NOTSET")
  have hNone : ∀ code : Nat,
      (if code = 0 then run.messages.countP (·.isHushed (.ofLevel level)) else 0) = 0 ↔
        code ≠ 0 ∨ ∀ m ∈ run.messages, m.isHushed (.ofLevel level) = false := by
    intro code
    by_cases hCode : code = 0 <;> simp [hCode, List.countP_eq_zero]
  have hWholeFinish := run.finish_of_level hWhole hSettings hPath
  rw [hEverything, Finish.keptBy_everything] at hWholeFinish
  refine ⟨_, _, run.finish_of_level h hSettings hPath, hWholeFinish, hCode, hCalls, hTree,
    ⟨hLacks.sublist, hLacks.filter_eq_iff.trans (hNone _)⟩⟩

/-- The log level only filters the log, but for the failures of reports. With command lines that
give different levels and agree in all else a run either breaks off each time, for the same reason,
or finishes each time with the same exit code, calls and files. The journal at a level is what the
level lets through of the whole journal, unless messages are taken, one of them cannot be told of,
and the level lets errors through but no information: then there is no failure of its report to be
noted. -/
theorem level_filters (run : Run) {read : Except ArgumentFault Arguments} {level other : String}
    {arguments otherArguments wholeArguments : List String}
    (hLevel : Arguments.GivesLevel read level arguments)
    (hOther : Arguments.GivesLevel read other otherArguments)
    (hWhole : Arguments.GivesLevel read "NOTSET" wholeArguments) :
    (∃ fault, { run with arguments }.finish = .error fault ∧
        { run with arguments := otherArguments }.finish = .error fault ∧
        { run with arguments := wholeArguments }.finish = .error fault) ∨
      ∃ finish otherFinish whole, { run with arguments }.finish = .ok finish ∧
        { run with arguments := otherArguments }.finish = .ok otherFinish ∧
        { run with arguments := wholeArguments }.finish = .ok whole ∧
        finish.exitCode = otherFinish.exitCode ∧ finish.trace.calls = otherFinish.trace.calls ∧
        finish.tree = otherFinish.tree ∧ run.Filters level finish whole ∧
        run.Filters other otherFinish whole := by
  cases hSettings : run.settingsFrom read with
  | error fault =>
    exact .inl ⟨fault, run.finish_of_settings_error hLevel hSettings,
      run.finish_of_settings_error hOther hSettings, run.finish_of_settings_error hWhole hSettings⟩
  | ok settings =>
    cases hPath : settings.outputPath with
    | error fault =>
      exact .inl ⟨.output fault, run.finish_of_output_error hLevel hSettings hPath,
        run.finish_of_output_error hOther hSettings hPath,
        run.finish_of_output_error hWhole hSettings hPath⟩
    | ok path =>
      obtain ⟨finish, whole, hFinish, hWholeFinish, hCode, hCalls, hTree, hFilters⟩ :=
        run.finish_beside_whole hLevel hWhole hSettings hPath
      obtain ⟨otherFinish, _, hOtherFinish, hSame, hCode', hCalls', hTree', hFilters'⟩ :=
        run.finish_beside_whole hOther hWhole hSettings hPath
      obtain rfl := Except.ok.inj (hWholeFinish.symm.trans hSame)
      exact .inr ⟨finish, otherFinish, whole, hFinish, hOtherFinish, hWholeFinish,
        hCode.trans hCode'.symm, hCalls.trans hCalls'.symm, hTree.trans hTree'.symm, hFilters,
        hFilters'⟩

end

attribute [local instance] Host.usual

/-- A run at which a sample arrives, at a level in small letters, at one that there is not, and at
the one that lets everything through. -/
theorem level_filters_sampled :
    let run := sampled [] .welcoming
    let atLevel (piece : List String) : Run := sampled (piece ++ ["--topic", "cs/#"]) .welcoming
    ∃ finish otherFinish whole, (atLevel ["--log-level=warning"]).finish = .ok finish ∧
      (atLevel ["--log-level", "loud"]).finish = .ok otherFinish ∧
      (atLevel ["--log-level", "NOTSET"]).finish = .ok whole ∧
      finish.tree = otherFinish.tree ∧ run.Filters "warning" finish whole ∧
      run.Filters "loud" otherFinish whole := by
  intro run atLevel
  have hTopic : ∀ s ∈ ["--topic", "cs/#"], ∀ written,
      ArgumentShape.ofArgument s ≠ .ok (.named .logLevel written) := by
    have hShapes : ["--topic", "cs/#"].map ArgumentShape.ofArgument =
        [.ok (.named .topic none), .ok .plain] := by decide +kernel
    simp_all
  have hWarning := Arguments.givesLevel_of_writes List.not_mem_nil hTopic "warning"
    (.joined (by decide)) (by decide) (by decide +kernel)
  have hLoud := Arguments.givesLevel_of_writes List.not_mem_nil hTopic "loud"
    (.apart (by decide +kernel)) (by decide) (by decide +kernel)
  have hWhole := Arguments.givesLevel_of_writes List.not_mem_nil hTopic "NOTSET"
    (.apart (by decide +kernel)) (by decide) (by decide +kernel)
  have hFinishes : (atLevel ["--log-level=warning"]).finish.isOk = true := by decide +kernel
  obtain ⟨fault, hFault, -⟩ | ⟨finish, otherFinish, whole, hFinish, hOther, hAll, -, -, hTree,
    hFilters, hFilters'⟩ := level_filters run hWarning hLoud hWhole
  · rw [show (atLevel ["--log-level=warning"]).finish = .error fault from hFault] at hFinishes
    cases hFinishes
  · exact ⟨finish, otherFinish, whole, hFinish, hOther, hAll, hTree, hFilters, hFilters'⟩

/-- The failure of a report is an error that is noted where everything is let through, and that is
not there at the level of warnings, which lets errors through. -/
theorem level_hushes_failure :
    let run : Run := { sampled [] .welcoming with messages := [.deep 1015] }
    ∃ finish whole, { run with arguments := ["--log-level", "WARNING"] }.finish = .ok finish ∧
      { run with arguments := ["--log-level", "NOTSET"] }.finish = .ok whole ∧
      finish.trace.journal ≠ (Threshold.ofLevel "WARNING").filter whole.trace.journal := by
  intro run
  have hWarning := Arguments.givesLevel_of_writes List.not_mem_nil (List.forall_mem_nil _) "WARNING"
    (.apart (by decide +kernel)) (by decide) (by decide +kernel)
  have hWhole := Arguments.givesLevel_of_writes List.not_mem_nil (List.forall_mem_nil _) "NOTSET"
    (.apart (by decide +kernel)) (by decide) (by decide +kernel)
  have hSettings : run.settingsFrom (Arguments.parse ["--log-level", "NOTSET"]) =
      .ok (usualSettings.atLevel "NOTSET") := by decide +kernel
  have hThreshold : Threshold.ofLevel "WARNING" = ⟨Level.warning.weight⟩ := by decide +kernel
  obtain ⟨path, hPath⟩ : ∃ path, (usualSettings.atLevel "NOTSET").outputPath = .ok path :=
    ⟨_, rfl⟩
  obtain ⟨finish, whole, hFinish, hWholeFinish, -, -, -, hFilters⟩ :=
    run.finish_beside_whole hWarning hWhole hSettings hPath
  refine ⟨finish, whole, hFinish, hWholeFinish, fun hSame => ?_⟩
  obtain hFailed | hHeard := hFilters.eq_iff.mp hSame
  · have hStarted : ((Receiver.new (usualSettings.atLevel (Threshold.nameOf "WARNING"))
        (.ofLevel "WARNING")).start run.broker run.seconds).success = true := by decide +kernel
    have hCode := (run.course_spec (usualSettings.atLevel (Threshold.nameOf "WARNING"))
      (.ofLevel "WARNING") hPath).1
    obtain rfl := Except.ok.inj (hFinish.symm.trans (run.finish_of_level hWarning hSettings hPath))
    rw [hStarted] at hCode
    exact hFailed hCode
  · have hUntellable : (Message.deep 1015).isUntellable .everything = true :=
      Message.isUntellable_deep (by decide) (by decide) (by decide)
    have hHushed := hHeard (.deep 1015) (List.mem_singleton_self _)
    simp [Message.isHushed, hThreshold, hUntellable, Level.weight] at hHushed

end Run

end TelemetryLog
