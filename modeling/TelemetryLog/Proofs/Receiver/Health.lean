import Mathlib.Data.List.Induction
import TelemetryLog.Proofs.Receiver.Running
import TelemetryLog.Proofs.Session.Waiting

/-! When a receiver is healthy. Each start makes a link anew, with a client of its own, which may
hear anything while the start waits. The receiver lets the links of earlier starts go, but nothing
ends their clients: they hear of the broker and take messages as before. A `Site` has them all, the
former link as a part of the receiver and the others beside it. If the receiver is started only
while it does not run, it is healthy exactly if the last start or stop was a start that succeeded,
and the last signal to the client of that start was an acceptance. -/

namespace TelemetryLog

theorem Signal.upAfter_false_iff {signals : List Signal} :
    Signal.upAfter false signals = true ↔
      ∃ last, signals.getLast? = some last ∧ last.isAcceptance = true := by
  unfold Signal.upAfter
  cases signals.getLast? <;> simp

/-- The first look at which a new link is up, by what it has heard. -/
def Air.IsFirstUp (air : Air) (look : Nat) : Prop :=
  Signal.upAfter false (air.heardBy look) = true ∧
    ∀ earlier < look, Signal.upAfter false (air.heardBy earlier) = false

namespace Link

variable {η : Type} (air : Air) (link : Link η)

/-- A link that connects has a client then and is up. -/
theorem connectAmid_of_success (h : (link.connectAmid air).success = true) :
    air.isClear link.endpoint = true ∧ (link.connectAmid air).link.hasClient = true ∧
      (link.connectAmid air).link.connected = true := by
  cases hClear : air.isClear link.endpoint with
  | false =>
    rw [(connectAmid_of_not_isClear hClear).2] at h
    cases h
  | true =>
    obtain ⟨connected, hLink⟩ := connectAmid_link air link
    refine ⟨rfl, ?_, by rw [(connectAmid_of_isClear hClear).2, h, Bool.true_or]⟩
    rw [hLink, (Air.isClear_iff.mp hClear).1, Option.isNone_none]
    exact Bool.or_true _

end Link

namespace Receiver

/-- Starts as `Receiver.start` does, whatever is in the air meanwhile. -/
def startAmid (air : Air) (seconds : Int) (r : Receiver) : Started :=
  r.startBy (·.connectAmid air) seconds

/-- A receiver meets a broker as it meets what is in the air about it. -/
theorem start_eq_startAmid (broker : Broker) (seconds : Int) (r : Receiver) :
    r.start broker seconds = r.startAmid broker.air seconds := by
  simp only [start, startAmid, Link.connect_eq_connectAmid]

/-- A start that succeeds has a path to write to, and its link connects. -/
theorem connects_of_startAmid {air : Air} {seconds : Int} {r : Receiver}
    (h : (r.startAmid air seconds).success = true) :
    ∃ path, r.settings.outputPath = .ok path ∧
      ((freshLink r.settings seconds).connectAmid air).success = true := by
  cases hPath : r.settings.outputPath with
  | error fault =>
    rw [startAmid, startBy_of_no_path hPath] at h
    cases h
  | ok path =>
    rw [startAmid, startBy_of_path hPath] at h
    exact ⟨path, rfl, h⟩

/-- A receiver that serves: it runs, and the client of its link is connected or not. -/
structure Serves (connected : Bool) (r : Receiver) : Prop where
  running : r.running = true
  intake : r.intake.isSome = true
  hasClient : r.hasClient = true
  isConnected : r.isConnected = connected

theorem Serves.isHealthy_health {connected : Bool} {r : Receiver} (h : r.Serves connected) :
    r.health.isHealthy = connected := by
  obtain ⟨intake, hIntake⟩ := Option.isSome_iff_exists.mp h.intake
  simp [health, hIntake, Health.isHealthy, h.running, h.isConnected]

theorem isHealthy_health_of_not_running {r : Receiver} (h : r.running = false) :
    r.health.isHealthy = false := by
  unfold health
  split <;> simp [Health.isHealthy, h]

theorem serves_startAmid {air : Air} {seconds : Int} {r : Receiver}
    (h : (r.startAmid air seconds).success = true) :
    (r.startAmid air seconds).receiver.Serves true := by
  obtain ⟨path, hPath, hConnects⟩ := connects_of_startAmid h
  obtain ⟨-, hClient, hConnected⟩ := Link.connectAmid_of_success _ _ hConnects
  rw [startAmid, startBy_of_path hPath]
  exact ⟨by simp [hConnects], rfl, hClient, hConnected⟩

theorem exists_isFirstUp {air : Air} {seconds : Int} {r : Receiver}
    (h : (r.startAmid air seconds).success = true) : ∃ look, air.IsFirstUp look := by
  obtain ⟨path, -, hConnects⟩ := connects_of_startAmid h
  obtain ⟨hClear, -⟩ := Link.connectAmid_of_success _ _ hConnects
  obtain ⟨look, -, hUp⟩ := (Link.connectAmid_of_isClear hClear).1.mp hConnects
  have hLooks : ∃ look, Signal.upAfter false (air.heardBy look) = true := ⟨look, hUp⟩
  exact ⟨Nat.find hLooks, Nat.find_spec hLooks,
    fun earlier hEarlier => Bool.eq_false_iff.mpr (Nat.find_min hLooks hEarlier)⟩

section Quiet

variable {r : Receiver} (hClient : r.hasClient = true)

include hClient in
theorem exists_reached : ∃ link, r.link = some link ∧ r.reached? = some link := by
  obtain ⟨link, hLink, -⟩ := (Option.any_eq_true _ _).mp hClient
  exact ⟨link, hLink, by rw [reached?, if_pos hClient, hLink]⟩

include hClient in
theorem isConnected_withReached (link : Link Feed) :
    (r.withReached link).isConnected = link.connected := by
  rw [withReached, if_pos hClient]
  rfl

include hClient in
/-- A signal that the client of the link hears. -/
theorem isConnected_onReached {event : Link Feed → Linked Feed} (signal : Signal)
    (hEvent : ∀ link, (event link).link = link.notice signal) :
    (r.onReached event).receiver.isConnected = signal.isAcceptance := by
  obtain ⟨link, -, hReached⟩ := exists_reached hClient
  simp only [onReached, hReached]
  rw [isConnected_withReached hClient, hEvent, Link.notice_eq]

theorem isConnected_build {built : Receiver} (h : r.build = .ok built) :
    built.isConnected = r.isConnected := by
  unfold build at h
  cases hPath : r.settings.outputPath with
  | error fault => simp [hPath, Except.map] at h
  | ok path =>
    simp only [hPath, Except.map, Except.ok.injEq] at h
    subst h
    cases hLink : r.link <;> simp [isConnected, buildAt, hLink, keepFeeding, Link.handledBy]

theorem isConnected_handle [Host] (zone : Zone) (tree : Tree) (topic : Value)
    (payload : Option Payload) (r : Receiver) :
    (r.handle zone tree topic payload).receiver.isConnected = r.isConnected := by
  unfold handle
  split <;> rfl

include hClient in
theorem isConnected_deliver [Host] (zone : Zone) (tree : Tree) (topic : Value)
    (payload : Option Payload) :
    (r.deliver zone tree topic payload).receiver.isConnected = r.isConnected := by
  obtain ⟨link, hLink, hReached⟩ := exists_reached hClient
  simp only [deliver, hReached, deliverOver]
  split
  · exact isConnected_handle zone tree topic payload r
  · rw [isConnected_withReached hClient, isConnected, hLink]
    rfl
  · rfl

end Quiet

end Receiver

namespace Station

/-- What the client of the receiver's link hears when something happens at a station. -/
def Turn.signal? : Turn → Option Signal
  | .drop code => some (.loss true code)
  | .acknowledge code => some (.answer true code)
  | _ => none

theorem isConnected_after [Host] (zone : Zone) {s : Station} (hClient : s.receiver.hasClient = true)
    {turn : Turn} (hQuiet : turn.isQuiet = true) :
    (s.after zone turn).receiver.isConnected =
      Signal.upAfter s.receiver.isConnected turn.signal?.toList := by
  cases turn with
  | start | stop => cases hQuiet
  | build =>
    simp only [after]
    split
    · exact Receiver.isConnected_build ‹_›
    · rfl
  | handle m => exact Receiver.isConnected_handle zone s.tree m.topic m.payload _
  | message m => exact Receiver.isConnected_deliver hClient zone s.tree m.topic m.payload
  | drop code =>
    exact Receiver.isConnected_onReached hClient (.loss true code) fun link => rfl
  | acknowledge code =>
    exact Receiver.isConnected_onReached hClient (.answer true code) fun link => rfl
  | change alter => rfl

/-- A receiver that serves goes on doing so if it is neither started nor stopped, connected or not
as the client of its link hears last. -/
theorem serves_after [Host] (zone : Zone) {s : Station} {connected : Bool}
    (h : s.receiver.Serves connected) {turn : Turn} (hQuiet : turn.isQuiet = true) :
    (s.after zone turn).receiver.Serves (Signal.upAfter connected turn.signal?.toList) := by
  obtain ⟨hGoesOn, -⟩ := goesOnAs_after zone s hQuiet
  refine ⟨hGoesOn.running.trans h.running, hGoesOn.intake h.intake,
    hGoesOn.hasClient.trans h.hasClient, ?_⟩
  rw [isConnected_after zone h.hasClient hQuiet, h.isConnected]

/-- Something comes over the former link, as if the present one had no client. -/
def overFormer [Host] (zone : Zone) (s : Station) (turn : Turn) : Station :=
  let later := (s.withReceiver { s.receiver with link := none }).after zone turn
  later.withReceiver { later.receiver with link := s.receiver.link }

theorem running_overFormer [Host] (zone : Zone) (s : Station) {turn : Turn}
    (h : turn.comesOverLink = true) :
    (s.overFormer zone turn).receiver.running = s.receiver.running :=
  (goesOnAs_after zone _ (Turn.isQuiet_of_comesOverLink h)).1.running

/-- What comes over the former link leaves a receiver serving as it does. -/
theorem serves_overFormer [Host] (zone : Zone) {s : Station} {connected : Bool}
    (h : s.receiver.Serves connected) {turn : Turn} (hOver : turn.comesOverLink = true) :
    (s.overFormer zone turn).receiver.Serves connected := by
  obtain ⟨hGoesOn, -⟩ := goesOnAs_after zone (s.withReceiver { s.receiver with link := none })
    (Turn.isQuiet_of_comesOverLink hOver)
  exact ⟨hGoesOn.running.trans h.running, hGoesOn.intake h.intake, h.hasClient, h.isConnected⟩

end Station

/-- A station with the links that its receiver has let go, whose clients live on. -/
structure Site where
  station : Station
  letGo : List (Link Intake)

namespace Receiver

/-- A link once the receiver has let it go: it can feed no intake but one that the receiver no
longer has. -/
def letGoLink (link : Link Feed) : Link Intake :=
  ⟨link.endpoint, link.clientName, link.hasClient, link.connected, formerIntake? link.handler⟩

/-- The links with clients that a receiver lets go when it is started. -/
def letGoByStart (r : Receiver) : List (Link Intake) :=
  match r.settings.outputPath with
  | .ok path => if r.hasClient then ((r.buildAt path).formerLink.map letGoLink).toList else []
  | .error _ => []

end Receiver

namespace Site

open Station (Turn)

/-- What can happen at a site: to the station, to its former link, also while the broker reaches the
present one, and to the links that its receiver has let go, which have the numbers of their places.
What a client hears while a start waits is a part of the start; messages that come then are left out
of account, since they make no difference to the link. -/
inductive Moment where
  | quiet (turn : { turn : Turn // turn.isQuiet = true })
  | start (air : Air) (seconds : Int)
  | stop (broker : Broker)
  | former (turn : { turn : Turn // turn.comesOverLink = true })
  | lateSignal (client : Nat) (signal : Signal)
  | lateMessage (client : Nat) (m : Message)

namespace Moment

def isStart : Moment → Bool
  | .start .. => true
  | _ => false

def isQuiet : Moment → Bool
  | .start .. | .stop _ => false
  | _ => true

/-- What the client of the receiver's link hears, if anything. -/
def signal? : Moment → Option Signal
  | .quiet turn => turn.val.signal?
  | _ => none

/-- What happens at a station, as a moment of its site. -/
def ofTurn : Turn → Moment
  | .start broker seconds => .start broker.air seconds
  | .stop broker => .stop broker
  | .build => .quiet ⟨.build, rfl⟩
  | .handle m => .quiet ⟨.handle m, rfl⟩
  | .message m => .quiet ⟨.message m, rfl⟩
  | .drop code => .quiet ⟨.drop code, rfl⟩
  | .acknowledge code => .quiet ⟨.acknowledge code, rfl⟩
  | .change alter => .quiet ⟨.change alter, rfl⟩

end Moment

def fresh (settings : Settings) (threshold : Threshold) (tree : Tree) : Site :=
  ⟨.fresh settings threshold tree, []⟩

def receiver (s : Site) : Receiver := s.station.receiver

section

variable [Host]

/-- A message arrives over a link that has been let go. -/
def deliverLate (zone : Zone) (client : Nat) (m : Message) (s : Site) : Site :=
  match s.letGo[client]?.bind (·.handler) with
  | some intake =>
    let done := intake.handle zone s.station.tree m.topic m.payload
    ⟨{ s.station with tree := done.tree },
      s.letGo.modify client (·.handledBy (some done.intake))⟩
  | none => s

def after (zone : Zone) (s : Site) : Moment → Site
  | .quiet turn => { s with station := s.station.after zone turn.val }
  | .start air seconds =>
    ⟨s.station.withReceiver (s.receiver.startAmid air seconds).receiver,
      s.letGo ++ s.receiver.letGoByStart⟩
  | .stop broker => { s with station := s.station.after zone (.stop broker) }
  | .former turn => { s with station := s.station.overFormer zone turn.val }
  | .lateSignal client signal => { s with letGo := s.letGo.modify client (·.notice signal) }
  | .lateMessage client m => s.deliverLate zone client m

def run (zone : Zone) (s : Site) (moments : List Moment) : Site := moments.foldl (after zone) s

/-- In a run the receiver is started only while it does not run. -/
def Disciplined (zone : Zone) (s : Site) : List Moment → Prop
  | [] => True
  | moment :: rest =>
    (moment.isStart = true → s.receiver.running = false) ∧
      (s.after zone moment).Disciplined zone rest

/-- The last start or stop of a run was a start, which succeeded, and these are the signals that the
client of its link has heard: those before the first look at which the link was up, and those after
the start. -/
def StartedLast (zone : Zone) (s : Site) (moments : List Moment) (heard : List Signal) : Prop :=
  ∃ before air seconds look rest, moments = before ++ .start air seconds :: rest ∧
    (∀ moment ∈ rest, moment.isQuiet = true) ∧
    ((s.run zone before).receiver.startAmid air seconds).success = true ∧ air.IsFirstUp look ∧
    heard = air.heardBy look ++ rest.filterMap Moment.signal?

variable {zone : Zone} {s : Site}

@[simp] theorem run_nil : s.run zone [] = s := rfl

@[simp] theorem run_cons (moment : Moment) (rest : List Moment) :
    s.run zone (moment :: rest) = (s.after zone moment).run zone rest := rfl

theorem run_append (first later : List Moment) :
    s.run zone (first ++ later) = (s.run zone first).run zone later := List.foldl_append

/-- A run of a station, as a run of a site. -/
theorem station_run_ofTurn (zone : Zone) (s : Site) (turns : List Turn) :
    (s.run zone (turns.map Moment.ofTurn)).station = s.station.run zone turns := by
  induction turns generalizing s with
  | nil => rfl
  | cons turn rest ih =>
    rw [List.map_cons, run_cons, ih, Station.run_cons]
    congr 1
    cases turn with
    | start broker seconds =>
      have hStarted := s.receiver.start_eq_startAmid broker seconds
      exact congrArg (s.station.withReceiver ·.receiver) hStarted.symm
    | _ => rfl

theorem disciplined_append (first later : List Moment) :
    s.Disciplined zone (first ++ later) ↔
      s.Disciplined zone first ∧ (s.run zone first).Disciplined zone later := by
  induction first generalizing s with
  | nil => simp [Disciplined]
  | cons moment rest ih => simp [Disciplined, ih, and_assoc]

/-- A message that arrives over a link that has been let go does not touch the receiver. -/
theorem receiver_deliverLate (client : Nat) (m : Message) :
    (s.deliverLate zone client m).receiver = s.receiver := by
  unfold deliverLate
  split <;> rfl

theorem running_after_quiet {moment : Moment} (hQuiet : moment.isQuiet = true) :
    (s.after zone moment).receiver.running = s.receiver.running := by
  cases moment with
  | start | stop => cases hQuiet
  | quiet turn => exact (Station.goesOnAs_after zone s.station turn.property).1.running
  | former turn => exact Station.running_overFormer zone s.station turn.property
  | lateSignal client signal => rfl
  | lateMessage client m => rw [after, receiver_deliverLate]

theorem running_run_quiet {moments : List Moment}
    (hQuiet : ∀ moment ∈ moments, moment.isQuiet = true) :
    (s.run zone moments).receiver.running = s.receiver.running := by
  induction moments generalizing s with
  | nil => rfl
  | cons moment rest ih =>
    obtain ⟨hFirst, hRest⟩ := List.forall_mem_cons.mp hQuiet
    rw [run_cons, ih hRest, running_after_quiet hFirst]

theorem serves_after {connected : Bool} (h : s.receiver.Serves connected) {moment : Moment}
    (hQuiet : moment.isQuiet = true) :
    (s.after zone moment).receiver.Serves (Signal.upAfter connected moment.signal?.toList) := by
  cases moment with
  | start | stop => cases hQuiet
  | quiet turn => exact Station.serves_after zone h turn.property
  | former turn => exact Station.serves_overFormer zone h turn.property
  | lateSignal client signal => exact h
  | lateMessage client m =>
    rw [after, receiver_deliverLate]
    exact h

/-- A receiver that serves goes on doing so until it is started or stopped. -/
theorem serves_run {connected : Bool} (h : s.receiver.Serves connected) {moments : List Moment}
    (hQuiet : ∀ moment ∈ moments, moment.isQuiet = true) :
    (s.run zone moments).receiver.Serves
      (Signal.upAfter connected (moments.filterMap Moment.signal?)) := by
  induction moments generalizing s connected with
  | nil => exact h
  | cons moment rest ih =>
    obtain ⟨hFirst, hRest⟩ := List.forall_mem_cons.mp hQuiet
    have hHeard : (moment :: rest).filterMap Moment.signal? =
        moment.signal?.toList ++ rest.filterMap Moment.signal? := by
      cases hSignal : moment.signal? <;> simp [hSignal]
    rw [hHeard, Signal.upAfter_append]
    exact ih (serves_after h hFirst) hRest

theorem serves_of_startedLast {moments : List Moment} {heard : List Signal}
    (h : s.StartedLast zone moments heard) :
    (s.run zone moments).receiver.Serves (Signal.upAfter false heard) := by
  obtain ⟨before, air, seconds, look, rest, rfl, hQuiet, hSuccess, hLook, rfl⟩ := h
  rw [run_append, Signal.upAfter_append, hLook.1]
  exact serves_run (Receiver.serves_startAmid hSuccess) hQuiet

theorem StartedLast.append_quiet {moments : List Moment} {heard : List Signal}
    (h : s.StartedLast zone moments heard) {moment : Moment} (hQuiet : moment.isQuiet = true) :
    ∃ later, s.StartedLast zone (moments ++ [moment]) later := by
  obtain ⟨before, air, seconds, look, rest, rfl, hRest, hSuccess, hLook, rfl⟩ := h
  refine ⟨_, before, air, seconds, look, rest ++ [moment], by simp, ?_, hSuccess, hLook, rfl⟩
  intro other hOther
  obtain hOther | hOther := List.mem_append.mp hOther
  · exact hRest other hOther
  · rwa [List.mem_singleton.mp hOther]

theorem startedLast_of_success {moments : List Moment} {air : Air} {seconds : Int}
    (h : ((s.run zone moments).receiver.startAmid air seconds).success = true) :
    ∃ heard, s.StartedLast zone (moments ++ [.start air seconds]) heard := by
  obtain ⟨look, hLook⟩ := Receiver.exists_isFirstUp h
  exact ⟨_, moments, air, seconds, look, [], rfl, by simp, h, hLook, rfl⟩

/-- If a receiver that has been started only while it did not run does run, then the last start or
stop was a start that succeeded. -/
theorem exists_startedLast {moments : List Moment} (hStopped : s.receiver.running = false)
    (hDisciplined : s.Disciplined zone moments)
    (hRunning : (s.run zone moments).receiver.running = true) :
    ∃ heard, s.StartedLast zone moments heard := by
  induction moments using List.reverseRecOn with
  | nil =>
    rw [run_nil, hStopped] at hRunning
    cases hRunning
  | append_singleton earlier moment ih =>
    obtain ⟨hEarlier, hMoment, -⟩ := (disciplined_append _ _).mp hDisciplined
    rw [run_append] at hRunning
    cases moment with
    | start air seconds =>
      have hBegun := (s.run zone earlier).receiver.startBy_running (·.connectAmid air) seconds
      rw [hMoment rfl, Bool.or_false] at hBegun
      exact startedLast_of_success (hBegun.symm.trans hRunning)
    | stop broker =>
      have hEnded := ((s.run zone earlier).receiver.stoppedFrom_stop broker).running
      cases hEnded.symm.trans hRunning
    | quiet | former | lateSignal | lateMessage =>
      rw [run_cons, run_nil, running_after_quiet rfl] at hRunning
      obtain ⟨heard, hStarted⟩ := ih hEarlier hRunning
      exact hStarted.append_quiet rfl

/-- Health is exact if the receiver is started only while it does not run. Whatever happens to it
and to the links that it had before, it is healthy exactly if the last start or stop was a start
that succeeded, and the last that the client of that start has heard is that it is accepted; so no
signal that comes after a stop, or after a start that failed, makes it healthy. The runs of a
station are among those of its site. -/
theorem isHealthy_iff (zone : Zone) (settings : Settings) (threshold : Threshold) (tree : Tree)
    (moments : List Moment)
    (hDisciplined : (fresh settings threshold tree).Disciplined zone moments) :
    let begun := fresh settings threshold tree
    let health := (begun.run zone moments).receiver.health
    (∀ turns, (begun.run zone (turns.map Moment.ofTurn)).station =
        (Station.fresh settings threshold tree).run zone turns) ∧
      (health.isHealthy = true ↔ ∃ heard last, begun.StartedLast zone moments heard ∧
        heard.getLast? = some last ∧ last.isAcceptance = true) ∧
      ∀ before last rest, moments = before ++ last :: rest →
        (∀ moment ∈ rest, moment.isQuiet = true) →
        ((∃ broker, last = .stop broker) ∨ ∃ air seconds, last = .start air seconds ∧
          ((begun.run zone before).receiver.startAmid air seconds).success = false) →
        health.isHealthy = false := by
  intro begun health
  refine ⟨station_run_ofTurn zone begun, ⟨?_, ?_⟩, ?_⟩
  · intro hHealthy
    have hRunning : (begun.run zone moments).receiver.running = true := by
      by_contra hNot
      rw [Bool.not_eq_true] at hNot
      cases (Receiver.isHealthy_health_of_not_running hNot).symm.trans hHealthy
    obtain ⟨heard, hStarted⟩ := exists_startedLast rfl hDisciplined hRunning
    have hUp := (serves_of_startedLast hStarted).isHealthy_health.symm.trans hHealthy
    obtain ⟨last, hLast, hAccepts⟩ := Signal.upAfter_false_iff.mp hUp
    exact ⟨heard, last, hStarted, hLast, hAccepts⟩
  · rintro ⟨heard, last, hStarted, hLast, hAccepts⟩
    have hUp := Signal.upAfter_false_iff.mpr ⟨last, hLast, hAccepts⟩
    exact (serves_of_startedLast hStarted).isHealthy_health.trans hUp
  · rintro before last rest rfl hQuiet hLast
    obtain ⟨-, hMoment, -⟩ := (disciplined_append before (last :: rest)).mp hDisciplined
    refine Receiver.isHealthy_health_of_not_running ?_
    rw [run_append, run_cons, running_run_quiet hQuiet]
    obtain ⟨broker, rfl⟩ | ⟨air, seconds, rfl, hFailed⟩ := hLast
    · exact ((begun.run zone before).receiver.stoppedFrom_stop broker).running
    · have hBegun := (begun.run zone before).receiver.startBy_running (·.connectAmid air) seconds
      rw [hMoment rfl, Bool.or_false] at hBegun
      exact hBegun.trans hFailed

end

attribute [local instance] Host.usual

/-- A receiver whose first start has timed out is started with success later and loses the broker.
When the client of the first start is accepted after all, that does not make the receiver healthy;
when its own client is accepted again, it is. -/
theorem isHealthy_after_late_acceptance :
    let begun := fresh Process.usualSettings .everything .empty
    let silent : Broker := { Broker.welcoming with answer := none }
    let moments : List Moment :=
      [.start silent.air 0, .stop .welcoming, .start silent.air 1, .start Broker.welcoming.air 2,
        .quiet ⟨.drop 7, rfl⟩, .lateSignal 0 (.answer true Broker.accepted)]
    let again : List Moment := moments ++ [.quiet ⟨.acknowledge Broker.accepted, rfl⟩]
    begun.Disciplined .universal moments ∧ begun.Disciplined .universal again ∧
      (begun.run .universal moments).letGo.map (·.connected) = [true] ∧
      (begun.run .universal moments).receiver.health.isHealthy = false ∧
      ∃ heard last, begun.StartedLast .universal again heard ∧ heard.getLast? = some last ∧
        last.isAcceptance = true := by
  intro begun silent moments again
  have hDisciplined : begun.Disciplined .universal moments := by
    simp only [moments, Disciplined, Moment.isStart]
    decide +kernel
  have hAgain : begun.Disciplined .universal again := by
    simp only [again, moments, List.cons_append, List.nil_append, Disciplined, Moment.isStart]
    decide +kernel
  have hExact := isHealthy_iff .universal _ .everything _ again hAgain
  exact ⟨hDisciplined, hAgain, by decide +kernel, by decide +kernel,
    hExact.2.1.mp (by decide +kernel)⟩

end Site

end TelemetryLog
