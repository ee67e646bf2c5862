import TelemetryLog.Proofs.Receiver.Station
import TelemetryLog.Proofs.Service.Numbering

/-! When a receiver runs. A start that succeeds sets it running and a stop ends that; a start that
fails does neither. So a receiver runs exactly if a start has succeeded after which there was no
stop, and what a start returns is right about that unless it fails after such a one. -/

namespace TelemetryLog

/-- Whether a report of health says that the receiver runs. -/
def Health.isRunning : Health → Bool
  | .notInitialized => false
  | .initialized running _ _ _ => running

namespace Receiver

theorem startBy_running (connect : Link Feed → Attempt Feed) (seconds : Int) (r : Receiver) :
    (r.startBy connect seconds).receiver.running =
      ((r.startBy connect seconds).success || r.running) := by
  cases hPath : r.settings.outputPath with
  | ok path => rw [startBy_of_path hPath]
  | error fault => rw [startBy_of_no_path hPath, Bool.false_or]

theorem start_running (broker : Broker) (seconds : Int) (r : Receiver) :
    (r.start broker seconds).receiver.running =
      ((r.start broker seconds).success || r.running) := r.startBy_running _ seconds

/-- A receiver that runs has an intake. -/
def Tended (r : Receiver) : Prop := r.running = true → r.intake.isSome = true

theorem GoesOnAs.tended {r r' : Receiver} (h : r.GoesOnAs r') (hTended : r.Tended) : r'.Tended := by
  intro hRunning
  rw [h.running] at hRunning
  exact h.intake (hTended hRunning)

theorem tended_start {r : Receiver} (h : r.Tended) (broker : Broker) (seconds : Int) :
    (r.start broker seconds).receiver.Tended := by
  cases hPath : r.settings.outputPath with
  | ok path => exact fun _ => (startedFrom_start hPath broker seconds).intake
  | error fault => rwa [(start_of_no_path hPath broker seconds).1]

theorem tended_stop (broker : Broker) (r : Receiver) : (r.stop broker).receiver.Tended := by
  intro hRunning
  rw [(stoppedFrom_stop broker r).running] at hRunning
  cases hRunning

theorem Tended.isRunning_health {r : Receiver} (h : r.Tended) : r.health.isRunning = r.running := by
  unfold health
  split
  · rfl
  · rename_i hIntake
    cases hRunning : r.running with
    | false => rfl
    | true =>
      have hSome := h hRunning
      rw [hIntake] at hSome
      cases hSome

end Receiver

namespace Station

section

variable [Host]

/-- In a run a start has succeeded after which there was no stop. -/
def Unstopped (zone : Zone) (s : Station) (turns : List Turn) : Prop :=
  ∃ before broker seconds rest, turns = before ++ .start broker seconds :: rest ∧
    ((s.run zone before).receiver.start broker seconds).success = true ∧
    ∀ later, Turn.stop later ∉ rest

variable {zone : Zone} {s : Station} {turn : Turn} {rest : List Turn}

theorem unstopped_cons :
    Unstopped zone s (turn :: rest) ↔
      (∃ broker seconds, turn = .start broker seconds ∧
        (s.receiver.start broker seconds).success = true ∧ ∀ later, Turn.stop later ∉ rest) ∨
      Unstopped zone (s.after zone turn) rest := by
  constructor
  · rintro ⟨before, broker, seconds, after, hTurns, hSuccess, hNoStop⟩
    cases before with
    | nil =>
      obtain ⟨rfl, rfl⟩ := List.cons.inj hTurns
      exact .inl ⟨broker, seconds, rfl, hSuccess, hNoStop⟩
    | cons first before =>
      obtain ⟨rfl, rfl⟩ := List.cons.inj hTurns
      exact .inr ⟨before, broker, seconds, after, rfl, hSuccess, hNoStop⟩
  · rintro (⟨broker, seconds, rfl, hSuccess, hNoStop⟩ |
      ⟨before, broker, seconds, after, rfl, hSuccess, hNoStop⟩)
    · exact ⟨[], broker, seconds, rest, rfl, hSuccess, hNoStop⟩
    · exact ⟨turn :: before, broker, seconds, after, rfl, hSuccess, hNoStop⟩

theorem tended_after (zone : Zone) (turn : Turn) (h : s.receiver.Tended) :
    (s.after zone turn).receiver.Tended := by
  cases turn with
  | start broker seconds => exact Receiver.tended_start h broker seconds
  | stop broker => exact s.receiver.tended_stop broker
  | _ => exact (goesOnAs_after zone s rfl).1.tended h

theorem tended_run (zone : Zone) (turns : List Turn) (h : s.receiver.Tended) :
    (s.run zone turns).receiver.Tended := by
  induction turns generalizing s with
  | nil => exact h
  | cons turn rest ih => exact ih (tended_after zone turn h)

/-- After a run the receiver runs exactly if it was set running by a start, or ran from the first,
and has not been stopped since. -/
theorem running_run_iff (zone : Zone) (s : Station) (turns : List Turn) :
    (s.run zone turns).receiver.running = true ↔
      Unstopped zone s turns ∨ (s.receiver.running = true ∧ ∀ later, Turn.stop later ∉ turns) := by
  induction turns generalizing s with
  | nil =>
    have hNone : ¬ Unstopped zone s [] := by
      rintro ⟨before, broker, seconds, rest, hTurns, -⟩
      simp at hTurns
    simp [hNone]
  | cons turn rest ih =>
    rw [run_cons, ih, unstopped_cons]
    cases turn with
    | start broker seconds =>
      have hRunning : (s.after zone (.start broker seconds)).receiver.running =
          ((s.receiver.start broker seconds).success || s.receiver.running) :=
        s.receiver.start_running broker seconds
      rw [hRunning]
      simp only [Turn.start.injEq, Bool.or_eq_true, List.mem_cons, reduceCtorEq, false_or]
      grind
    | stop broker =>
      have hRunning : (s.after zone (.stop broker)).receiver.running = false :=
        (s.receiver.stoppedFrom_stop broker).running
      have hStop : ¬ ∀ later, Turn.stop later ∉ Turn.stop broker :: rest :=
        fun hNoStop => hNoStop broker List.mem_cons_self
      rw [hRunning]
      simp only [hStop, reduceCtorEq, false_and, exists_false, and_false, false_or, or_false]
    | _ =>
      rw [(goesOnAs_after zone s rfl).1.running]
      simp

/-- Whatever has happened to a receiver, after a start it runs as the start returns, unless the start
fails and an earlier one has succeeded after which there was no stop. Its report of health says
the same. -/
theorem running_agrees_iff (zone : Zone) (settings : Settings) (threshold : Threshold)
    (tree : Tree) (turns : List Turn) (broker : Broker) (seconds : Int) :
    let begun := fresh settings threshold tree
    let started := (begun.run zone turns).receiver.start broker seconds
    (started.receiver.running = started.success ↔
        started.success = true ∨ ¬ Unstopped zone begun turns) ∧
      started.receiver.health.isRunning = started.receiver.running := by
  intro begun started
  have hBefore := running_run_iff zone begun turns
  have hBegun : begun.receiver.running = false := rfl
  rw [hBegun] at hBefore
  have hStarted : started.receiver.running =
      (started.success || (begun.run zone turns).receiver.running) :=
    Receiver.start_running broker seconds _
  have hTended : (begun.run zone turns).receiver.Tended :=
    tended_run zone turns fun hRunning => by cases hRunning
  refine ⟨?_, (Receiver.tended_start hTended broker seconds).isRunning_health⟩
  rw [hStarted]
  cases started.success with
  | true => simp
  | false => simpa using (not_congr hBefore)

end

/-- A broker to which no client can connect. -/
def unreachable : Broker := { Broker.welcoming with connectFault := some "Connection refused" }

attribute [local instance] Host.usual

/-- A receiver that is started again while it runs goes on running, and says so, although the second
start fails. -/
theorem runs_after_failed_start :
    let begun := fresh Process.usualSettings .everything .empty
    let again := (begun.run .universal [.start .welcoming 0]).receiver.start unreachable 0
    again.success = false ∧ again.receiver.running = true ∧
      again.receiver.health.isRunning = true := by
  decide +kernel

end Station

end TelemetryLog
