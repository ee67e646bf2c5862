import TelemetryLog.Proofs.Receiver.Station
import TelemetryLog.Proofs.Session.Opening

/-! The calls of a receiver that is started. Whatever the clients do, they are those that the
settings ask for, in a fixed order, as far as the first that fails; and in all the calls of a
receiver that is started and stopped again and again, no client is asked to connect before it has
been given what the settings require. -/

namespace TelemetryLog

namespace Receiver

/-- Starts the receiver, whatever its client does. What the link hands on meanwhile is left out of
account. -/
def startAmong (conduct : Conduct) (seconds : Int) (r : Receiver) : Started :=
  r.startBy (fun link => (link.connectAmong conduct).attempt) seconds

theorem start_eq_startAmong (broker : Broker) (seconds : Int) (r : Receiver) :
    r.start broker seconds = r.startAmong broker.conduct seconds := by
  simp only [startAmong, Link.attempt_connectAmong]
  rfl

variable {conduct : Conduct} {seconds : Int} {r : Receiver}

theorem startAmong_of_path {path : Path} (hPath : r.settings.outputPath = .ok path) :
    let trial := (freshLink r.settings seconds).connectAmong conduct
    (r.startAmong conduct seconds).trace.calls = trial.trace.calls ∧
      (r.startAmong conduct seconds).success = trial.success := by
  rw [startAmong, startBy_of_path hPath]
  exact ⟨List.append_nil _, rfl⟩

theorem startAmong_of_no_path {fault : OutputFault} (h : r.settings.outputPath = .error fault) :
    (r.startAmong conduct seconds).trace.calls = [] ∧
      (r.startAmong conduct seconds).success = false := by
  rw [startAmong, startBy_of_no_path h]
  exact ⟨rfl, rfl⟩

/-- The calls of a start guard each attempt to connect. -/
theorem guards_startAmong (conduct : Conduct) (seconds : Int) (r : Receiver) :
    r.settings.endpoint.Guards (r.startAmong conduct seconds).trace.calls := by
  cases hPath : r.settings.outputPath with
  | error fault =>
    rw [(startAmong_of_no_path hPath).1]
    exact .of_no_connection (by simp)
  | ok path =>
    rw [(startAmong_of_path hPath).1]
    exact .of_opening (Link.filter_connectAmong (freshLink r.settings seconds))

/-- The calls of receivers with the same settings that are started and stopped one after the other,
and whose links meet whatever comes to them: of one receiver that is started and stopped again and
again, say, whatever becomes of it between. -/
inductive Sessions (settings : Settings) : List Call → Prop
  | none : Sessions settings []
  | start {calls : List Call} (h : Sessions settings calls) (r : Receiver)
      (hSettings : r.settings = settings) (conduct : Conduct) (seconds : Int) :
      Sessions settings (calls ++ (r.startAmong conduct seconds).trace.calls)
  | stop {calls : List Call} (h : Sessions settings calls) (link : Link Feed) (conduct : Conduct) :
      Sessions settings (calls ++ (link.disconnectAmong conduct).trace.calls)
  | meet {calls : List Call} (h : Sessions settings calls) (link : Link Feed) (o : Occurrence) :
      Sessions settings (calls ++ (link.meet o).trace.calls)

namespace Sessions

variable {settings : Settings} {calls : List Call}

theorem guards (h : Sessions settings calls) : settings.endpoint.Guards calls := by
  induction h with
  | none => exact .of_no_connection (by simp)
  | start _ r hSettings conduct seconds ih =>
    exact ih.append (hSettings ▸ r.guards_startAmong conduct seconds)
  | stop _ link conduct ih =>
    exact ih.append (.of_no_connection link.connect_not_mem_disconnectAmong)
  | meet _ link o ih => exact ih.append (.of_no_connection (by simp [Link.filter_meet]))

theorem start_broker (h : Sessions settings calls) {r : Receiver}
    (hSettings : r.settings = settings) (broker : Broker) (seconds : Int) :
    Sessions settings (calls ++ (r.start broker seconds).trace.calls) := by
  rw [start_eq_startAmong]
  exact h.start r hSettings broker.conduct seconds

theorem stop_broker (h : Sessions settings calls) (r : Receiver) (broker : Broker) :
    Sessions settings (calls ++ (r.stop broker).trace.calls) := by
  unfold Receiver.stop
  split
  · rename_i link _
    simp only [← Link.toLinked_disconnectAmong, Trace.calls_append, List.append_nil]
    exact h.stop link broker.conduct
  · simpa using h

theorem onReached (h : Sessions settings calls) (r : Receiver) (s : Signal) :
    Sessions settings
      (calls ++ (r.onReached fun link => (link.meet (.signal s)).toLinked).trace.calls) := by
  unfold Receiver.onReached
  split
  · exact h.meet _ _
  · simpa using h

end Sessions

end Receiver

namespace Station

theorem settings_after [Host] (zone : Zone) (s : Station) (turn : Turn) :
    (s.after zone turn).receiver.settings = s.receiver.settings := by
  cases turn with
  | start broker seconds => exact Receiver.settings_start broker seconds
  | stop broker => exact (s.receiver.stoppedFrom_stop broker).settings
  | _ => exact (s.goesOnAs_after zone rfl).1.settings

/-- The calls of a station are those of a receiver that is started and stopped. -/
theorem sessions_callsOf [Host] {settings : Settings} {calls : List Call}
    (h : Receiver.Sessions settings calls) (zone : Zone) {s : Station}
    (hSettings : s.receiver.settings = settings) (turns : List Turn) :
    Receiver.Sessions settings (calls ++ s.callsOf zone turns) := by
  induction turns generalizing s calls with
  | nil => simpa [callsOf] using h
  | cons turn rest ih =>
    have hTurn : Receiver.Sessions settings (calls ++ s.calls turn) := by
      cases turn with
      | start broker seconds => exact h.start_broker hSettings broker seconds
      | stop broker => exact h.stop_broker s.receiver broker
      | drop code => exact h.onReached s.receiver (.loss true code)
      | acknowledge code => exact h.onReached s.receiver (.answer true code)
      | build | handle | message | change => simpa [Station.calls] using h
    rw [callsOf, ← List.append_assoc]
    exact ih hTurn ((settings_after zone s turn).trans hSettings)

end Station

namespace Receiver

/-- What the calls of a start are like, whatever the client does. -/
structure Opens (conduct : Conduct) (seconds : Int) (r : Receiver) : Prop where
  /-- Without a path to write to nothing is called. -/
  nothing : ∀ fault, r.settings.outputPath = .error fault →
    (r.startAmong conduct seconds).trace.calls = []
  /-- With one, the calls are those that the endpoint asks for, as far as the first that fails. -/
  calls : ∀ path, r.settings.outputPath = .ok path →
    (r.startAmong conduct seconds).trace.calls.filter Call.isOpening =
      conduct.upToFault (r.settings.endpoint.openingCalls
        (r.settings.clientId.shown ++ "-" ++ String.ofList (Text.integerText seconds)))
  /-- The topic is subscribed to once for each time that the client is accepted. -/
  subscriptions : ∀ path, r.settings.outputPath = .ok path →
    (r.startAmong conduct seconds).trace.calls.filter Call.isSubscription =
      List.replicate (((freshLink r.settings seconds).connectAmong conduct).history.countP
        Happening.isAcceptance) (.subscribe r.settings.topic r.settings.qos)
  late : conduct.TellsLate → ∀ before topic qos after,
    (r.startAmong conduct seconds).trace.calls = before ++ .subscribe topic qos :: after →
      ∃ portNumber, r.settings.brokerPort = some portNumber ∧
        .connect r.settings.brokerHost portNumber Endpoint.keepAlive ∈ before
  failure : .startLoop ∉ (r.startAmong conduct seconds).trace.calls →
    (r.startAmong conduct seconds).success = false

theorem opens_startAmong (conduct : Conduct) (seconds : Int) (r : Receiver) :
    r.Opens conduct seconds := by
  refine ⟨fun fault hPath => (startAmong_of_no_path hPath).1, ?_, ?_, ?_, ?_⟩
  · intro path hPath
    rw [(startAmong_of_path hPath).1]
    exact Link.filter_connectAmong _
  · intro path hPath
    rw [(startAmong_of_path hPath).1]
    exact (Link.follows_connectAmong conduct _).subscriptions
  · intro hLate before topic qos after hCalls
    cases hPath : r.settings.outputPath with
    | error fault => simp [(startAmong_of_no_path hPath).1] at hCalls
    | ok path =>
      rw [(startAmong_of_path hPath).1] at hCalls
      exact Link.connectCall_mem_of_subscribe hLate hCalls
  · intro hLoop
    cases hPath : r.settings.outputPath with
    | error fault => exact (startAmong_of_no_path hPath).2
    | ok path =>
      rw [(startAmong_of_path hPath).1] at hLoop
      rw [(startAmong_of_path hPath).2, ← Bool.not_eq_true]
      exact fun hSuccess => hLoop (Link.startLoop_mem_of_connects hSuccess)

theorem countP_start (broker : Broker) (seconds : Int) (r : Receiver) :
    (r.start broker seconds).trace.calls.countP Call.isSubscription ≤
      if broker.answer = some Broker.accepted then 1 else 0 := by
  rw [start_eq_startAmong]
  cases hPath : r.settings.outputPath with
  | error fault =>
    rw [(startAmong_of_no_path hPath).1]
    exact Nat.zero_le _
  | ok path =>
    have hConnect := Link.countP_connect broker (freshLink r.settings seconds)
    rw [← Link.attempt_connectAmong] at hConnect
    rwa [(startAmong_of_path hPath).1]

/-- A receiver opens its link safely, whatever its clients do. A start calls for what the settings
ask for, in a fixed order, as far as the first call that fails; it subscribes once for each time
that its client is accepted, after it has asked the client to connect, and fails unless it has begun
a loop. A broker accepts its client once at most. And in all the calls of starts and stops no client
is asked to connect without what the settings require; the calls of a station are such calls. -/
theorem opens_safely [Host] (r : Receiver) :
    (∀ conduct seconds, r.Opens conduct seconds) ∧
      (∀ broker seconds, r.start broker seconds = r.startAmong broker.conduct seconds ∧
        broker.conduct.TellsLate ∧
        (r.start broker seconds).trace.calls.countP Call.isSubscription ≤
          if broker.answer = some Broker.accepted then 1 else 0) ∧
      (∀ calls, Sessions r.settings calls → r.settings.endpoint.Guards calls) ∧
      ∀ zone threshold tree turns,
        Sessions r.settings ((Station.fresh r.settings threshold tree).callsOf zone turns) := by
  refine ⟨fun conduct seconds => r.opens_startAmong conduct seconds, fun broker seconds => ?_,
    fun calls => Sessions.guards, fun zone threshold tree turns => ?_⟩
  · exact ⟨start_eq_startAmong broker seconds r, broker.tellsLate_conduct,
      countP_start broker seconds r⟩
  · exact @Station.sessions_callsOf _ r.settings [] .none zone (.fresh r.settings threshold tree)
      rfl turns

end Receiver

end TelemetryLog
