import TelemetryLog.Proofs.CommandLine
import TelemetryLog.Proofs.Receiver.Feeding

/-! A whole run of the program. Once its settings are there a run ends in one way only: it starts the
receiver, takes the messages in if that succeeds, and stops the receiver in any case, so that the
client that it has made, if any, is disconnected. How it is told to end makes no difference but to
the journal. The one run that does not get so far is one whose log is given no path. -/

namespace TelemetryLog

/-- What stands after an item that is not in the last of two lists ends with that list. -/
theorem exists_middle_of_append_eq {α : Type} {x : α} {first last before after : List α}
    (h : first ++ last = before ++ x :: after) (hLast : x ∉ last) :
    x ∈ first ∧ ∃ middle, after = middle ++ last := by
  obtain ⟨middle, -, hParts⟩ | ⟨middle, hParts, hAfter⟩ := List.append_eq_append_iff.mp h
  · exact absurd (by simp [hParts]) hLast
  · cases middle with
    | nil =>
      have hMember : x ∈ last := by
        rw [← List.nil_append last, ← hAfter]
        exact List.mem_cons_self
      exact absurd hMember hLast
    | cons y middle =>
      obtain ⟨rfl, rfl⟩ := List.cons.inj hAfter
      exact ⟨by simp [hParts], middle, rfl⟩

def Call.isCreate : Call → Bool
  | .create _ _ => true
  | _ => false

namespace Receiver

variable {r : Receiver} {intake : Intake}

/-- A start makes one client at most, and begins a loop only if the client has come about. -/
theorem calls_start (broker : Broker) (seconds : Int) (r : Receiver) :
    let started := r.start broker seconds
    (started.trace.calls.filter Call.isCreate).length ≤ 1 ∧
      (.startLoop ∈ started.trace.calls → started.receiver.hasClient = true) := by
  intro started
  cases hPath : r.settings.outputPath with
  | error fault => simp [started, (start_of_no_path hPath broker seconds).2.2]
  | ok path =>
    have hStarted := startedFrom_start hPath broker seconds
    have hLoops : (fun call : Call => call.isCreate && call.concernsLoops) = Call.isCreate := by
      funext call
      cases call <;> rfl
    constructor
    · rw [← hLoops, ← List.filter_filter, hStarted.calls]
      cases r.settings.endpoint.beginsLoop broker <;> exact Nat.le_refl 1
    · intro hLoop
      have hMember : .startLoop ∈ started.trace.calls.filter Call.concernsLoops :=
        List.mem_filter.mpr ⟨hLoop, rfl⟩
      rw [hStarted.calls] at hMember
      rw [hStarted.hasClient]
      cases hBegins : r.settings.endpoint.beginsLoop broker with
      | true => simp_all [Endpoint.beginsLoop]
      | false => simp [hBegins, freshLink, Link.createCall] at hMember

/-- Messages that arrive at a receiver which feeds an intake change that intake only, and are taken
as at a desk. -/
theorem Feeds.deliverAll [Host] (h : r.Feeds intake) (zone : Zone) (tree : Tree)
    (messages : List Message) :
    let desk := Desk.run zone ⟨intake, tree⟩ (messages.map .message)
    let delivered := Run.deliverAll zone tree r messages
    delivered.1 = { r with intake := some desk.intake } ∧ delivered.2.1 = desk.tree := by
  induction messages generalizing r intake tree with
  | nil =>
    refine ⟨?_, rfl⟩
    rw [List.map_nil, Desk.run_nil, ← h.intake]
    rfl
  | cons m rest ih =>
    have hRest := ih (h.withIntake (Desk.take zone ⟨intake, tree⟩ m).intake)
      (Desk.take zone ⟨intake, tree⟩ m).tree
    simp only [Run.deliverAll, h.deliver_eq]
    exact hRest

end Receiver

namespace Run

section

variable [Host]

/-- Whether the command line puts the empty list in the place of the folder or the file of the
log. -/
def listsOutput (run : Run) : Bool :=
  match Arguments.parse run.arguments with
  | .ok given => given.listsOutput
  | .error _ => false

variable {run : Run} {settings : Settings} {threshold : Threshold} {path : Path}

theorem listsOutput_iff (h : run.settings = .ok settings) :
    (∃ path, settings.outputPath = .ok path) ↔ run.listsOutput = false := by
  unfold Run.settings at h
  unfold listsOutput
  split at h
  · cases h
  · rename_i given hGiven
    split at h
    · cases h
    · rename_i loaded hLoaded
      cases h
      simp only [hGiven]
      exact Settings.outputPath_override (Settings.namesOutput_load hLoaded)
        (Arguments.written_parse hGiven)

/-- How a run ends that has settings and a threshold. -/
structure Conducts (run : Run) (settings : Settings) (threshold : Threshold) (finish : Finish) :
    Prop where
  /-- The exit code tells whether the receiver has been started. -/
  exitCode : finish.exitCode =
    if ((Receiver.new settings threshold).start run.broker run.seconds).success then 0 else 1
  oneClient : (finish.trace.calls.filter Call.isCreate).length ≤ 1
  /-- Wherever the loop of a client begins, the calls end later with those by which it leaves. -/
  leaves : ∀ before after, finish.trace.calls = before ++ .startLoop :: after →
    ∃ middle, after = middle ++ run.broker.partingCalls
  /-- A run that fails leaves the files as they are. -/
  untouched : finish.exitCode = 1 → finish.tree = run.tree
  /-- A run that succeeds leaves what a receiver that is built with the settings leaves when its
  intake takes the messages. -/
  files : finish.exitCode = 0 →
    ∃ built intake, (Receiver.new settings threshold).build = .ok built ∧
      built.intake = some intake ∧
      finish.tree = (Desk.run run.zone ⟨intake, run.tree⟩ (run.messages.map .message)).tree

theorem finish_of_no_path {fault : OutputFault} (hSettings : run.settings = .ok settings)
    (hThreshold : Threshold.ofName settings.logLevel = .ok threshold)
    (hPath : settings.outputPath = .error fault) : run.finish = .error (.output fault) := by
  simp only [finish, hSettings, hThreshold, hPath]

/-- The course of a run: what its start does, what the messages do if it succeeds, and the parting
calls of its client, if there is one. -/
theorem course_spec (run : Run) (settings : Settings) (threshold : Threshold)
    (hPath : settings.outputPath = .ok path) :
    let started := (Receiver.new settings threshold).start run.broker run.seconds
    let desk : Desk := ⟨Receiver.freshIntake settings threshold path, run.tree⟩
    let course := run.course settings threshold path
    course.exitCode = (if started.success then 0 else 1) ∧
      course.trace.calls = started.trace.calls ++ started.receiver.partingCalls run.broker ∧
      course.tree =
        if started.success then (desk.run run.zone (run.messages.map .message)).tree
        else run.tree := by
  intro started desk course
  cases hSuccess : started.success with
  | true =>
    obtain ⟨hLast, hTree⟩ :=
      (Receiver.feeds_start (r := .new settings threshold) hPath hSuccess).deliverAll run.zone
        run.tree run.messages
    have hCourse : course = ⟨0, ⟨[], headEntries settings path⟩ ++ started.trace ++
        (run.serve started.receiver).1, (run.serve started.receiver).2⟩ := by
      simp only [course, Run.course]
      rw [if_pos hSuccess]
    rw [hCourse]
    refine ⟨rfl, ?_, hTree⟩
    simp only [serve, Trace.calls_append, List.nil_append, Receiver.calls_stop]
    rw [hLast]
    rfl
  | false =>
    have hCourse : course = ⟨1, ⟨[], headEntries settings path⟩ ++ started.trace ++
        (started.receiver.stop run.broker).trace, run.tree⟩ := by
      simp only [course, Run.course]
      rw [if_neg (by simp [started] at hSuccess; simp [hSuccess])]
    rw [hCourse]
    refine ⟨rfl, ?_, rfl⟩
    simp only [Trace.calls_append, List.nil_append, Receiver.calls_stop]

/-- A run that has settings, a threshold and a path finishes, and how it is told to end has no part
in its exit code, its calls and its files. -/
theorem finish_of_path (run : Run) (hSettings : run.settings = .ok settings)
    (hThreshold : Threshold.ofName settings.logLevel = .ok threshold)
    (hPath : settings.outputPath = .ok path) :
    let started := (Receiver.new settings threshold).start run.broker run.seconds
    let desk : Desk := ⟨Receiver.freshIntake settings threshold path, run.tree⟩
    ∃ finish, run.finish = .ok finish ∧
      finish.exitCode = (if started.success then 0 else 1) ∧
      finish.trace.calls = started.trace.calls ++ started.receiver.partingCalls run.broker ∧
      finish.tree =
        if started.success then (desk.run run.zone (run.messages.map .message)).tree
        else run.tree := by
  simp only [finish, hSettings, hThreshold, hPath]
  exact ⟨_, rfl, run.course_spec settings threshold hPath⟩

theorem conducts_of_path {finish : Finish} (hSettings : run.settings = .ok settings)
    (hThreshold : Threshold.ofName settings.logLevel = .ok threshold)
    (hPath : settings.outputPath = .ok path) (hFinish : run.finish = .ok finish) :
    run.Conducts settings threshold finish := by
  obtain ⟨finish, hSame, hCode, hCalls, hTree⟩ := run.finish_of_path hSettings hThreshold hPath
  obtain rfl := Except.ok.inj (hSame.symm.trans hFinish)
  obtain ⟨hOne, hLoop⟩ :=
    Receiver.calls_start run.broker run.seconds (.new settings threshold)
  have hParting := @Receiver.mem_partingCalls run.broker
    ((Receiver.new settings threshold).start run.broker run.seconds).receiver
  refine ⟨hCode, ?_, ?_, ?_, ?_⟩
  · have hNone : (((Receiver.new settings threshold).start run.broker
        run.seconds).receiver.partingCalls run.broker).filter Call.isCreate = [] := by
      refine List.filter_eq_nil_iff.mpr fun call hCall => ?_
      obtain rfl | rfl := hParting hCall <;> decide
    rw [hCalls, List.filter_append, hNone, List.append_nil]
    exact hOne
  · intro before after hSplit
    rw [hCalls] at hSplit
    obtain ⟨hBegins, middle, hAfter⟩ := exists_middle_of_append_eq hSplit fun hCall => by
      obtain hCall | hCall := hParting hCall <;> cases hCall
    refine ⟨middle, ?_⟩
    rw [hAfter, Receiver.partingCalls, if_pos (hLoop hBegins)]
  · intro hFailed
    rw [hTree, if_neg]
    intro hSuccess
    simp [hCode, hSuccess] at hFailed
  · intro hSucceeded
    have hSuccess :
        ((Receiver.new settings threshold).start run.broker run.seconds).success = true := by
      by_contra hNot
      simp [hCode, hNot] at hSucceeded
    have hBuilt : (Receiver.new settings threshold).build =
        .ok ((Receiver.new settings threshold).buildAt path) := by
      have hOutput : (Receiver.new settings threshold).settings.outputPath = .ok path := hPath
      rw [Receiver.build, hOutput]
      rfl
    rw [if_pos hSuccess] at hTree
    exact ⟨_, _, hBuilt, rfl, hTree⟩

/-- How a run that has settings and a threshold ends. Unless the command line puts the empty list in
the place of the folder or the file of the log, it finishes as `Conducts` says, and in whatever
other way it were told to end it would finish with the same exit code, calls and files; and if the
command line does so, the run breaks off before anything is started. -/
theorem whole_run (run : Run) {settings : Settings} {threshold : Threshold}
    (hSettings : run.settings = .ok settings)
    (hThreshold : Threshold.ofName settings.logLevel = .ok threshold) :
    (run.listsOutput = false →
      ∃ finish, run.finish = .ok finish ∧ run.Conducts settings threshold finish ∧
        ∀ ending, ∃ other, { run with ending }.finish = .ok other ∧
          other.exitCode = finish.exitCode ∧ other.trace.calls = finish.trace.calls ∧
          other.tree = finish.tree) ∧
    (run.listsOutput = true → ∃ fault, run.finish = .error (.output fault)) := by
  constructor
  · intro hLists
    obtain ⟨path, hPath⟩ := (listsOutput_iff hSettings).mpr hLists
    obtain ⟨finish, hFinish, hCode, hCalls, hTree⟩ := run.finish_of_path hSettings hThreshold hPath
    refine ⟨finish, hFinish, conducts_of_path hSettings hThreshold hPath hFinish, fun ending => ?_⟩
    obtain ⟨other, hOther, hOtherCode, hOtherCalls, hOtherTree⟩ :=
      finish_of_path { run with ending } hSettings hThreshold hPath
    exact ⟨other, hOther, hOtherCode.trans hCode.symm, hOtherCalls.trans hCalls.symm,
      hOtherTree.trans hTree.symm⟩
  · intro hLists
    cases hPath : settings.outputPath with
    | error fault => exact ⟨fault, finish_of_no_path hSettings hThreshold hPath⟩
    | ok path =>
      have hNot := (listsOutput_iff hSettings).mp ⟨path, hPath⟩
      rw [hLists] at hNot
      cases hNot

end

/-- The settings of a run for which neither the environment nor a file of variables has any. -/
def usualSettings : Settings :=
  { brokerHost := .text "localhost"
    brokerPort := some 1883
    transport := .text "tcp"
    wsPath := .text "/mqtt"
    useTls := some false
    username := none
    password := none
    topic := .text "#"
    qos := some 1
    clientId := .text "datalogger-subscriber"
    outputFolder := .text "Datalog"
    outputFile := .text "datalog.csv"
    logLevel := "INFO"
    statsEvery := 100 }

/-- A run with such settings at which a sample arrives before it is interrupted. -/
def sampled (arguments : List String) (broker : Broker) : Run :=
  { arguments
    environment := []
    tree := .empty
    zone := .universal
    seconds := 0
    broker
    messages := [.sample]
    ending := .interrupted }

attribute [local instance] Host.usual

/-- A run that cannot disconnect finishes too, and one that nobody answers fails. -/
theorem whole_run_sampled :
    let unleaving : Broker := { Broker.welcoming with disconnectFault := some "Connection lost" }
    let silent : Broker := { Broker.welcoming with answer := none }
    let threshold : Threshold := ⟨Level.info.weight⟩
    (sampled [] unleaving).settings = .ok usualSettings ∧
      Threshold.ofName usualSettings.logLevel = .ok threshold ∧
      (∃ finish, (sampled [] unleaving).finish = .ok finish ∧ finish.exitCode = 0 ∧
        (sampled [] unleaving).Conducts usualSettings threshold finish) ∧
      ∃ finish, (sampled [] silent).finish = .ok finish ∧ finish.exitCode = 1 ∧
        finish.tree = .empty := by
  intro unleaving silent threshold
  have hUnleaving : (sampled [] unleaving).settings = .ok usualSettings := by decide +kernel
  have hSilent : (sampled [] silent).settings = .ok usualSettings := by decide +kernel
  have hThreshold : Threshold.ofName usualSettings.logLevel = .ok threshold := by decide +kernel
  obtain ⟨finish, hFinish, hConducts, -⟩ :=
    (whole_run (sampled [] unleaving) hUnleaving hThreshold).1 rfl
  obtain ⟨failed, hFailed, hFailure, -⟩ :=
    (whole_run (sampled [] silent) hSilent hThreshold).1 rfl
  have hCode : finish.exitCode = 0 := hConducts.exitCode.trans (by decide +kernel)
  have hFailedCode : failed.exitCode = 1 := hFailure.exitCode.trans (by decide +kernel)
  exact ⟨hUnleaving, hThreshold, ⟨finish, hFinish, hCode, hConducts⟩, failed, hFailed, hFailedCode,
    hFailure.untouched hFailedCode⟩

/-- A run breaks off, although its settings and its level are there, if two dashes are written as
its folder. -/
theorem breaks_off_at_dashes :
    let run := sampled ["--output-folder=--"] .welcoming
    let settings : Settings := { usualSettings with outputFolder := .emptyList }
    run.settings = .ok settings ∧
      Threshold.ofName settings.logLevel = .ok ⟨Level.info.weight⟩ ∧
      run.finish = .error (.output .listAsFolder) := by
  intro run settings
  have hSettings : run.settings = .ok settings := by decide +kernel
  have hThreshold : Threshold.ofName settings.logLevel = .ok ⟨Level.info.weight⟩ := by
    decide +kernel
  exact ⟨hSettings, hThreshold, finish_of_no_path hSettings hThreshold rfl⟩

end Run

end TelemetryLog
