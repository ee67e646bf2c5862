import TelemetryLog.Proofs.Receiver.Station
import TelemetryLog.Proofs.Service.Numbering

/-! The loops of clients. Each start makes a client anew, whose loop begins when it has got as far as
to connect, and each stop has to do with the client of the last start only. So a loop ends only by a
stop that comes before the next start, and only if the client can disconnect then. -/

namespace TelemetryLog

/-- The clients of a trace, which are numbered as they are created, and the loops that go on. -/
structure Loops where
  created : Nat
  running : List Nat
  deriving DecidableEq, Repr

namespace Loops

/-- What a call, which is made to the client that was created last, does to the loops. -/
def note (l : Loops) : Call → Loops
  | .create _ _ => { l with created := l.created + 1 }
  | .startLoop => { l with running := l.created :: l.running }
  | .stopLoop => { l with running := l.running.filter (· ≠ l.created) }
  | _ => l

def noteAll (l : Loops) (calls : List Call) : Loops := calls.foldl note l

def none : Loops := ⟨0, []⟩

variable {l : Loops}

theorem noteAll_append (l : Loops) (calls others : List Call) :
    l.noteAll (calls ++ others) = (l.noteAll calls).noteAll others := List.foldl_append

/-- The loops that go on have the numbers of clients that have been created. -/
theorem numbered_noteAll (calls : List Call) (h : ∀ n ∈ l.running, n ≤ l.created) :
    ∀ n ∈ (l.noteAll calls).running, n ≤ (l.noteAll calls).created := by
  induction calls generalizing l with
  | nil => exact h
  | cons call rest ih =>
    refine ih (l := l.note call) ?_
    cases call with
    | create => exact fun n hRunning => Nat.le_succ_of_le (h n hRunning)
    | startLoop => exact List.forall_mem_cons.mpr ⟨Nat.le_refl _, h⟩
    | stopLoop => exact fun n hRunning => h n (List.mem_of_mem_filter hRunning)
    | _ => exact h

/-- Only the calls that concern loops count. -/
theorem noteAll_filter (l : Loops) (calls : List Call) :
    l.noteAll (calls.filter Call.concernsLoops) = l.noteAll calls := by
  rw [noteAll, noteAll, List.foldl_filter]
  congr 1
  funext l call
  cases call <;> rfl

/-- The loops agree with a receiver: a loop has the number of a client, that of the client created
last belongs to the client of the receiver, and there are none without a path to write to. -/
structure Fits (l : Loops) (r : Receiver) : Prop where
  numbered : ∀ n ∈ l.running, n ≤ l.created
  client : l.created ∈ l.running → r.hasClient = true
  path : l.running ≠ [] → ∃ path, r.settings.outputPath = .ok path

theorem Fits.goesOn {r r' : Receiver} (h : l.Fits r) (hGoesOn : r.GoesOnAs r') : l.Fits r' := by
  refine ⟨h.numbered, ?_, ?_⟩
  · rw [hGoesOn.hasClient]
    exact h.client
  · rw [hGoesOn.settings]
    exact h.path

/-- The loops once a client has been created, whose own loop may begin. -/
def started (begins : Bool) (l : Loops) : Loops :=
  ⟨l.created + 1, if begins then (l.created + 1) :: l.running else l.running⟩

/-- The loops once that of the client created last has been ended. -/
def ended (l : Loops) : Loops := { l with running := l.running.filter (· ≠ l.created) }

theorem noteAll_start {r : Receiver} {path : Path} (hPath : r.settings.outputPath = .ok path)
    (broker : Broker) (seconds : Int) (l : Loops) :
    l.noteAll (r.start broker seconds).trace.calls =
      l.started (r.settings.endpoint.beginsLoop broker) := by
  rw [← noteAll_filter, (Receiver.startedFrom_start hPath broker seconds).calls]
  cases r.settings.endpoint.beginsLoop broker <;> rfl

theorem noteAll_stop (broker : Broker) (r : Receiver) (l : Loops) :
    l.noteAll (r.stop broker).trace.calls =
      if r.hasClient && broker.disconnectFault.isNone then l.ended else l := by
  rw [← noteAll_filter, (r.stoppedFrom_stop broker).calls]
  split <;> rfl

theorem noteAll_quiet {calls : List Call} (h : calls.filter Call.concernsLoops = []) (l : Loops) :
    l.noteAll calls = l := by
  rw [← noteAll_filter, h]
  rfl

theorem Fits.started {r : Receiver} (h : l.Fits r) {path : Path}
    (hPath : r.settings.outputPath = .ok path) (broker : Broker) (seconds : Int) :
    (l.started (r.settings.endpoint.beginsLoop broker)).Fits (r.start broker seconds).receiver := by
  have hStarted := Receiver.startedFrom_start hPath broker seconds
  refine ⟨?_, ?_, fun _ => ⟨path, hStarted.settings ▸ hPath⟩⟩
  · rw [← noteAll_start hPath broker seconds]
    exact numbered_noteAll _ h.numbered
  · intro hRunning
    rw [hStarted.hasClient]
    simp only [Loops.started] at hRunning
    split at hRunning
    · rename_i hBegins
      simp only [Endpoint.beginsLoop, Bool.and_eq_true] at hBegins
      exact hBegins.1.1
    · exact absurd (h.numbered _ hRunning) (Nat.not_succ_le_self _)

theorem Fits.stopped {r : Receiver} (h : l.Fits r) (broker : Broker) :
    (l.noteAll (r.stop broker).trace.calls).Fits (r.stop broker).receiver := by
  have hStopped := r.stoppedFrom_stop broker
  have hKept : l.Fits (r.stop broker).receiver :=
    ⟨h.numbered, fun hRunning => hStopped.hasClient.trans (h.client hRunning),
      hStopped.settings ▸ h.path⟩
  rw [noteAll_stop]
  split
  · refine ⟨fun n hRunning => ?_, fun hRunning => ?_, fun hSome => ?_⟩
    · exact hKept.numbered n (List.mem_of_mem_filter hRunning)
    · simp [ended] at hRunning
    · refine hKept.path fun hNone => hSome ?_
      rw [ended, hNone]
      rfl
  · exact hKept

end Loops

/-- Whether the loop of a client begins when a receiver with these settings is started. -/
def Settings.beginsLoop (broker : Broker) (settings : Settings) : Bool :=
  settings.outputPath.isOk && settings.endpoint.beginsLoop broker

namespace Station

/-- Before the next start there is a stop at which the client can disconnect. -/
def EndsLoop (turns : List Turn) : Prop :=
  ∃ broker, Turn.stop broker ∈ turns.takeWhile (!·.isStart) ∧ broker.disconnectFault = none

/-- Each loop that begins in a run is ended before the next start. -/
def EndsEachLoop (settings : Settings) (turns : List Turn) : Prop :=
  ∀ before broker seconds rest, turns = before ++ .start broker seconds :: rest →
    settings.beginsLoop broker = true → EndsLoop rest

/-- The loops that go on after the calls of a run. -/
def loops [Host] (zone : Zone) (s : Station) (turns : List Turn) : Loops :=
  Loops.none.noteAll (s.callsOf zone turns)

variable {settings : Settings} {turn : Turn} {rest : List Turn}

theorem endsEachLoop_nil (settings : Settings) : EndsEachLoop settings [] := by
  intro before broker seconds rest hTurns
  simp at hTurns

theorem endsEachLoop_cons :
    EndsEachLoop settings (turn :: rest) ↔
      (∀ broker seconds, turn = .start broker seconds → settings.beginsLoop broker = true →
        EndsLoop rest) ∧ EndsEachLoop settings rest := by
  constructor
  · intro h
    constructor
    · rintro broker seconds rfl
      exact h [] broker seconds rest rfl
    · rintro before broker seconds after rfl
      exact h (turn :: before) broker seconds after rfl
  · rintro ⟨hFirst, hRest⟩ before broker seconds after hTurns
    cases before with
    | nil =>
      obtain ⟨rfl, rfl⟩ := List.cons.inj hTurns
      exact hFirst broker seconds rfl
    | cons first before =>
      obtain ⟨rfl, rfl⟩ := List.cons.inj hTurns
      exact hRest before broker seconds after rfl

theorem not_endsLoop_nil : ¬ EndsLoop [] := by
  rintro ⟨broker, hStop, -⟩
  cases hStop

theorem not_endsLoop_start (broker : Broker) (seconds : Int) :
    ¬ EndsLoop (.start broker seconds :: rest) := by
  rintro ⟨later, hStop, -⟩
  cases hStop

theorem endsLoop_stop (broker : Broker) :
    EndsLoop (.stop broker :: rest) ↔ broker.disconnectFault = none ∨ EndsLoop rest := by
  simp [EndsLoop, Turn.isStart, or_and_right, exists_or]

theorem endsLoop_quiet (h : turn.isQuiet = true) : EndsLoop (turn :: rest) ↔ EndsLoop rest := by
  cases turn with
  | start | stop => cases h
  | _ => simp [EndsLoop, Turn.isStart]

/-- A client that is created leaves no way to end the loops of those before it. -/
theorem forall_started {l : Loops} (hNumbered : ∀ n ∈ l.running, n ≤ l.created) (begins : Bool)
    (p : Prop) :
    (∀ n ∈ (l.started begins).running, n = (l.started begins).created ∧ p) ↔
      l.running = [] ∧ (begins = true → p) := by
  have hOld : (∀ n ∈ l.running, n = l.created + 1 ∧ p) ↔ l.running = [] := by
    rw [List.eq_nil_iff_forall_not_mem]
    refine forall_congr' fun n => ⟨fun h hRunning => ?_, fun h hRunning => absurd hRunning h⟩
    have hNew := (h hRunning).1
    have hLe := hNumbered n hRunning
    omega
  cases begins with
  | false => simpa [Loops.started] using hOld
  | true =>
    simp only [Loops.started, if_true, List.forall_mem_cons, true_and, hOld, true_implies]
    exact and_comm

/-- A stop ends the loop of the client created last if that can disconnect, and none otherwise. -/
theorem forall_stopped {l : Loops} {r : Receiver} (h : l.Fits r) (broker : Broker) (p : Prop) :
    (∀ n ∈ (l.noteAll (r.stop broker).trace.calls).running,
        n = (l.noteAll (r.stop broker).trace.calls).created ∧ p) ↔
      ∀ n ∈ l.running, n = l.created ∧ (broker.disconnectFault = none ∨ p) := by
  rw [Loops.noteAll_stop]
  split
  · rename_i hEnds
    rw [Bool.and_eq_true, Option.isNone_iff_eq_none] at hEnds
    simp only [Loops.ended, List.mem_filter, decide_eq_true_eq, hEnds.2, true_or, and_true]
    refine forall_congr' fun n => ⟨fun hOther hRunning => ?_, fun hSame hOther => ?_⟩
    · by_contra hNe
      exact hNe (hOther ⟨hRunning, hNe⟩).1
    · exact absurd (hSame hOther.1) hOther.2
  · rename_i hKeeps
    refine forall_congr' fun n => forall_congr' fun hRunning => and_congr_right fun hLast => ?_
    -- The loop of the client created last goes on, so the client is there and cannot disconnect.
    subst hLast
    have hFault : broker.disconnectFault ≠ none := by
      simpa [h.client hRunning] using hKeeps
    simp [hFault]

/-- The loops that go on after a run: those that went on at its start and were that of the client
created last are ended if there is a stop for them, and so is each loop that begins in the run; the
others are not ended any more. -/
theorem running_noteAll_eq_nil [Host] (zone : Zone) (turns : List Turn) {s : Station} {l : Loops}
    (h : l.Fits s.receiver) :
    (l.noteAll (s.callsOf zone turns)).running = [] ↔
      (∀ n ∈ l.running, n = l.created ∧ EndsLoop turns) ∧
        EndsEachLoop s.receiver.settings turns := by
  induction turns generalizing s l with
  | nil =>
    simp only [callsOf, Loops.noteAll, List.foldl_nil, not_endsLoop_nil, endsEachLoop_nil, and_false,
      and_true]
    exact List.eq_nil_iff_forall_not_mem
  | cons turn rest ih =>
    rw [callsOf, Loops.noteAll_append, endsEachLoop_cons]
    cases hQuiet : turn.isQuiet with
    | true =>
      obtain ⟨hGoesOn, hCalls⟩ := goesOnAs_after zone s hQuiet
      rw [Loops.noteAll_quiet hCalls, ih (h.goesOn hGoesOn), hGoesOn.settings, endsLoop_quiet hQuiet]
      have hNoStart : ∀ broker seconds, turn ≠ .start broker seconds := by
        rintro broker seconds rfl
        cases hQuiet
      simp [hNoStart]
    | false =>
      cases turn with
      | start broker seconds =>
        simp only [not_endsLoop_start, and_false, Turn.start.injEq, calls]
        cases hPath : s.receiver.settings.outputPath with
        | error fault =>
          obtain ⟨hReceiver, -, hCalls⟩ := Receiver.start_of_no_path hPath broker seconds
          have hNone : l.running = [] := by
            by_contra hSome
            obtain ⟨path, hOk⟩ := h.path hSome
            cases hPath.symm.trans hOk
          have hAfter : s.after zone (.start broker seconds) = s := by
            simp only [after, hReceiver]
            rfl
          have hNothing : l.noteAll [] = l := rfl
          rw [hCalls, hAfter, hNothing, ih h]
          simp [hNone, Settings.beginsLoop, hPath, Except.isOk, Except.toBool]
        | ok path =>
          have hSettings := (Receiver.startedFrom_start hPath broker seconds).settings
          have hRest := ih (s := s.after zone (.start broker seconds)) (h.started hPath broker seconds)
          rw [Loops.noteAll_start hPath, hRest, forall_started h.numbered]
          simp [after, withReceiver, hSettings, Settings.beginsLoop, hPath, Except.isOk,
            Except.toBool, List.eq_nil_iff_forall_not_mem, and_assoc]
      | stop broker =>
        have hSettings := (s.receiver.stoppedFrom_stop broker).settings
        have hRest := ih (s := s.after zone (.stop broker)) (h.stopped broker)
        rw [forall_stopped h broker] at hRest
        simp only [endsLoop_stop, reduceCtorEq, false_implies, implies_true, true_and]
        rw [← hSettings]
        exact hRest
      | _ => cases hQuiet

/-- Once a receiver has been stopped, no loop of a client goes on, whatever has happened before,
exactly if before the next start after each one at which a loop begins there is a stop at which
the client can disconnect. -/
theorem no_loop_left_iff [Host] (zone : Zone) (settings : Settings) (threshold : Threshold)
    (tree : Tree) (earlier : List Turn) (last : Broker) :
    let turns := earlier ++ [.stop last]
    ((fresh settings threshold tree).loops zone turns).running = [] ↔
      EndsEachLoop settings turns := by
  intro turns
  have hFits : Loops.none.Fits (fresh settings threshold tree).receiver :=
    ⟨by simp [Loops.none], by simp [Loops.none], by simp [Loops.none]⟩
  refine (running_noteAll_eq_nil zone turns hFits).trans ?_
  simp [Loops.none, fresh, Receiver.new]

/-- A broker that accepts no client, and one that lets no client disconnect. -/
def refusing : Broker := { Broker.welcoming with answer := some 5 }

def unleaving : Broker := { Broker.welcoming with disconnectFault := some "Connection lost" }

attribute [local instance] Host.usual

/-- A receiver that is started again after a start that failed, and then stopped, leaves the loop of
its first client behind; and one that cannot disconnect when it is stopped leaves that of its only
client. -/
theorem loop_left_behind :
    let begun := fresh Process.usualSettings .everything .empty
    (begun.loops .universal
        [.start refusing 0, .start .welcoming 0, .stop .welcoming]).running = [1] ∧
      (begun.loops .universal [.start .welcoming 0, .stop unleaving]).running = [1] := by
  decide +kernel

end Station

end TelemetryLog
