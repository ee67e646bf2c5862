import Mathlib.Data.List.Induction
import TelemetryLog.Proofs.Receiver.Loops
import TelemetryLog.Proofs.Receiver.Running

/-! A service and what is asked of it. A start makes a receiver only if there is none, and one that
could not be started stays until the next stop. So a service has to do with one client at a time,
and the loop of a client is left behind only by a stop at which that client cannot disconnect. -/

namespace TelemetryLog

namespace Service

/-- What can be asked of a service, each time of whatever broker and with whatever files there are
then, and what may come over a link in the meantime. -/
inductive Request where
  | start (given : Option Settings) (tree : Tree) (broker : Broker) (seconds : Int)
  | stop (broker : Broker)
  | look
  | message (zone : Zone) (tree : Tree) (m : Message)
  | drop (code : Int)
  | acknowledge (code : Int)

def Request.isStart : Request → Bool
  | .start .. => true
  | _ => false

def Request.isStop : Request → Bool
  | .stop _ => true
  | _ => false

/-- An event of the receiver that the broker reaches, if there is one. -/
def onReached (event : Receiver → Received) (s : Service) : Service × Trace :=
  match s.reached? with
  | some r => (s.withReached (event r).receiver, (event r).trace)
  | none => (s, .empty)

/-- The service after a request, and what this leaves behind. -/
def serve [Host] (s : Service) : Request → Service × Trace
  | .start given tree broker seconds =>
    let started := s.start given tree broker seconds
    (started.service, started.trace)
  | .stop broker => s.stop broker
  | .look => (s, .empty)
  | .message zone tree m =>
    s.onReached fun r => ⟨(r.deliver zone tree m.topic m.payload).receiver, .empty⟩
  | .drop code => s.onReached (·.drop code)
  | .acknowledge code => s.onReached (·.acknowledge code)

def after [Host] (s : Service) (request : Request) : Service := (s.serve request).1

def calls [Host] (s : Service) (request : Request) : List Call := (s.serve request).2.calls

def run [Host] (s : Service) (requests : List Request) : Service := requests.foldl after s

/-- All calls that a service makes for some requests, in order. -/
def callsOf [Host] (s : Service) : List Request → List Call
  | [] => []
  | request :: rest => s.calls request ++ (s.after request).callsOf rest

/-- The loops that go on after some requests. -/
def loops [Host] (s : Service) (requests : List Request) : Loops :=
  Loops.none.noteAll (s.callsOf requests)

def hasClient (s : Service) : Bool := s.receiver.any (·.hasClient)

/-- Each stop that comes while a loop goes on is one at which a client can disconnect. -/
def EndsAtStops [Host] (s : Service) (requests : List Request) : Prop :=
  ∀ before broker rest, requests = before ++ .stop broker :: rest →
    broker.disconnectFault = none ∨ (s.loops before).running = []

variable {s : Service} {l : Loops} {r : Receiver} {request : Request}

@[simp] theorem run_cons [Host] (s : Service) (request : Request) (rest : List Request) :
    s.run (request :: rest) = (s.after request).run rest := rfl

theorem run_concat [Host] (s : Service) (requests : List Request) (last : Request) :
    s.run (requests ++ [last]) = (s.run requests).after last := by
  simp [run]

theorem callsOf_concat [Host] (s : Service) (requests : List Request) (last : Request) :
    s.callsOf (requests ++ [last]) = s.callsOf requests ++ (s.run requests).calls last := by
  induction requests generalizing s with
  | nil => simp [callsOf, run]
  | cons request rest ih => simp [callsOf, ih]

theorem loops_concat [Host] (s : Service) (requests : List Request) (last : Request) :
    s.loops (requests ++ [last]) = (s.loops requests).noteAll ((s.run requests).calls last) := by
  rw [loops, callsOf_concat, Loops.noteAll_append]
  rfl

section Start

variable {given : Option Settings} {tree : Tree} {broker : Broker} {seconds : Int}

/-- A start that returns says whether the receiver runs that the service has then. -/
theorem start_ok {running : Bool} (h : (s.start given tree broker seconds).result = .ok running) :
    ∃ r, (s.start given tree broker seconds).service.receiver = some r ∧ r.running = running := by
  cases hReceiver : s.receiver with
  | some r =>
    rw [start_of_receiver given tree broker seconds hReceiver] at h ⊢
    exact ⟨r, hReceiver, Except.ok.inj h⟩
  | none =>
    obtain ⟨fault, -, hStart⟩ | ⟨chosen, -, hStart⟩ :=
      start_of_none given tree broker seconds hReceiver
    · rw [hStart] at h
      cases h
    · rw [hStart] at h ⊢
      refine ⟨_, rfl, ?_⟩
      rw [Receiver.start_running, Except.ok.inj h]
      exact Bool.or_false running

/-- A start fails to return only for want of settings, if there is no receiver. -/
theorem start_eq_error_iff {fault : SettingsFault} :
    (s.start given tree broker seconds).result = .error fault ↔
      s.receiver = none ∧ (settings tree s.environment given).2 = .error fault := by
  cases hReceiver : s.receiver with
  | some r => simp [start_of_receiver given tree broker seconds hReceiver]
  | none =>
    obtain ⟨other, hRead, hStart⟩ | ⟨chosen, hRead, hStart⟩ :=
      start_of_none given tree broker seconds hReceiver
    · simp [hStart, hRead]
    · simp [hStart, hRead]

/-- A start that finds no settings has made neither a receiver nor a call. -/
theorem start_error {fault : SettingsFault}
    (h : (s.start given tree broker seconds).result = .error fault) :
    (s.start given tree broker seconds).service.receiver = none ∧
      (s.start given tree broker seconds).trace = .empty := by
  obtain ⟨other, -, hStart⟩ | ⟨chosen, -, hStart⟩ :=
    start_of_none given tree broker seconds (start_eq_error_iff.mp h).1
  · rw [hStart]
    exact ⟨rfl, rfl⟩
  · rw [hStart] at h
    cases h

end Start

theorem receiver_stop (broker : Broker) (s : Service) : (s.stop broker).1.receiver = none := by
  unfold stop
  split
  · rfl
  · assumption

theorem goesOnAs_refl (present : Option Receiver) :
    Option.Rel Receiver.GoesOnAs present present := by
  cases present with
  | none => exact .none
  | some r => exact .some (.refl r)

/-- A change of the receiver that the broker reaches, as which it goes on. -/
theorem goesOnAs_withReached {r' : Receiver} (hReached : s.reached? = some r)
    (h : r.GoesOnAs r') :
    Option.Rel Receiver.GoesOnAs s.receiver (s.withReached r').receiver := by
  obtain ⟨hReceiver, hLink⟩ | ⟨-, hLink⟩ := reached_cases hReached
  · rw [withReached, if_pos hLink, hReceiver]
    exact .some h
  · rw [withReached, hLink]
    exact goesOnAs_refl _

theorem goesOnAs_onReached {event : Receiver → Received}
    (hEvent : ∀ r, Receiver.GoesOnAs r (event r).receiver)
    (hCalls : ∀ r, (event r).trace.calls.filter Call.concernsLoops = []) (s : Service) :
    Option.Rel Receiver.GoesOnAs s.receiver (s.onReached event).1.receiver ∧
      (s.onReached event).2.calls.filter Call.concernsLoops = [] := by
  unfold onReached
  split
  · exact ⟨goesOnAs_withReached ‹_› (hEvent _), hCalls _⟩
  · exact ⟨goesOnAs_refl _, rfl⟩

/-- A receiver that is there goes on as it is, and nothing is done about loops, unless it is stopped;
a start changes nothing about it. -/
theorem goesOnAs_after [Host] (hStop : request.isStop = false)
    (hStart : request.isStart = true → s.receiver.isSome = true) :
    Option.Rel Receiver.GoesOnAs s.receiver (s.after request).receiver ∧
      (s.calls request).filter Call.concernsLoops = [] := by
  cases request with
  | stop broker => cases hStop
  | start given tree broker seconds =>
    obtain ⟨r, hReceiver⟩ := Option.isSome_iff_exists.mp (hStart rfl)
    simp only [after, calls, serve, start_of_receiver given tree broker seconds hReceiver]
    exact ⟨goesOnAs_refl _, rfl⟩
  | look => exact ⟨goesOnAs_refl _, rfl⟩
  | message zone tree m =>
    exact s.goesOnAs_onReached (Receiver.goesOnAs_deliver zone tree m.topic m.payload) fun _ => rfl
  | drop code =>
    exact s.goesOnAs_onReached (Receiver.goesOnAs_onReached fun _ => rfl)
      (Receiver.filter_calls_onReached fun _ => rfl)
  | acknowledge code =>
    refine s.goesOnAs_onReached (Receiver.goesOnAs_onReached fun link => ?_)
      (Receiver.filter_calls_onReached fun link => link.filter_calls_acknowledge code)
    obtain ⟨connected, hLink⟩ := link.acknowledge_link code
    rw [hLink]

/-- A client is created only by the start of a service that has no receiver. -/
theorem start_of_create_mem [Host] {name : String} {transport : GivenText}
    (h : .create name transport ∈ s.calls request) :
    request.isStart = true ∧ s.receiver = none := by
  have hLoops : .create name transport ∈ (s.calls request).filter Call.concernsLoops :=
    List.mem_filter.mpr ⟨h, rfl⟩
  have hConcerned := List.ne_nil_of_mem hLoops
  cases request with
  | start given tree broker seconds =>
    cases hReceiver : s.receiver with
    | none => exact ⟨rfl, rfl⟩
    | some r => exact absurd (goesOnAs_after rfl fun _ => by simp [hReceiver]).2 hConcerned
  | stop broker =>
    simp only [calls, serve, stop] at hLoops
    cases hReceiver : s.receiver with
    | none => simp [hReceiver] at hLoops
    | some r =>
      simp only [hReceiver, (r.stoppedFrom_stop broker).calls] at hLoops
      split at hLoops <;> simp at hLoops
  | look | message | drop | acknowledge =>
    exact absurd (goesOnAs_after rfl fun hStart => by cases hStart).2 hConcerned

/-- As long as a service is not stopped, its receiver stays and runs as it does. -/
theorem receiver_run [Host] {requests : List Request} (hReceiver : s.receiver = some r)
    (hStops : ∀ request ∈ requests, request.isStop = false) :
    ∃ r', (s.run requests).receiver = some r' ∧ r'.running = r.running := by
  induction requests generalizing s r with
  | nil => exact ⟨r, hReceiver, rfl⟩
  | cons request rest ih =>
    obtain ⟨hStop, hRest⟩ := List.forall_mem_cons.mp hStops
    have hGoesOn := (goesOnAs_after (s := s) hStop fun _ => by simp [hReceiver]).1
    rw [hReceiver] at hGoesOn
    cases hAfter : (s.after request).receiver with
    | none =>
      rw [hAfter] at hGoesOn
      cases hGoesOn
    | some next =>
      rw [hAfter] at hGoesOn
      obtain ⟨r', hLast, hRunning⟩ := ih hAfter hRest
      cases hGoesOn with
      | some hNext => exact ⟨r', hLast, hRunning.trans hNext.running⟩

/-- No loop goes on but that of the client which the service has. -/
def Minds (l : Loops) (s : Service) : Prop :=
  ∀ n ∈ l.running, n = l.created ∧ s.hasClient = true

theorem minds_of_no_client (h : s.hasClient = false) : s.Minds l ↔ l.running = [] := by
  simp [Minds, h, List.eq_nil_iff_forall_not_mem]

theorem hasClient_of_rel {s' : Service}
    (h : Option.Rel Receiver.GoesOnAs s.receiver s'.receiver) : s'.hasClient = s.hasClient := by
  unfold hasClient
  revert h
  generalize s.receiver = before, s'.receiver = present
  rintro (⟨hGoesOn⟩ | _)
  · exact hGoesOn.hasClient
  · rfl

/-- The loop of a client that a receiver gets when it is made belongs to that receiver. -/
theorem minds_start (hNumbered : ∀ n ∈ l.running, n ≤ l.created) (settings : Settings)
    (broker : Broker) (seconds : Int) (environment : Environment) (retired : Option Receiver) :
    let started := (Receiver.new settings .everything).start broker seconds
    Minds (l.noteAll started.trace.calls) ⟨environment, some started.receiver, retired⟩ ↔
      l.running = [] := by
  intro started
  cases hPath : (Receiver.new settings .everything).settings.outputPath with
  | error fault =>
    obtain ⟨hReceiver, -, hCalls⟩ := Receiver.start_of_no_path hPath broker seconds
    rw [hReceiver, hCalls]
    exact minds_of_no_client rfl
  | ok path =>
    have hStarted := Receiver.startedFrom_start hPath broker seconds
    have hBegins : settings.endpoint.beginsLoop broker = true →
        started.receiver.hasClient = true := by
      rw [hStarted.hasClient]
      simp +contextual [Endpoint.beginsLoop]
    rw [Loops.noteAll_start hPath]
    exact (Station.forall_started hNumbered _ _).trans (and_iff_left hBegins)

/-- After a stop the service has no client, so it minds the loops if the stop has ended them. -/
theorem minds_stop (broker : Broker) :
    Minds (l.noteAll (s.stop broker).2.calls) (s.stop broker).1 ↔
      s.Minds l ∧ (broker.disconnectFault = none ∨ l.running = []) := by
  unfold stop
  cases hReceiver : s.receiver with
  | none =>
    have hNone : s.hasClient = false := by simp [hasClient, hReceiver]
    rw [minds_of_no_client hNone, minds_of_no_client hNone]
    exact ⟨fun hEnded => ⟨hEnded, .inr hEnded⟩, And.left⟩
  | some r =>
    have hClient : s.hasClient = r.hasClient := by simp [hasClient, hReceiver]
    rw [minds_of_no_client rfl, Loops.noteAll_stop, Minds, hClient]
    cases r.hasClient <;> cases broker.disconnectFault <;>
      simp +contextual [Loops.ended, List.eq_nil_iff_forall_not_mem]

theorem minds_of_goesOn [Host] (hStop : request.isStop = false)
    (hStart : request.isStart = true → s.receiver.isSome = true) :
    Minds (l.noteAll (s.calls request)) (s.after request) ↔ s.Minds l := by
  obtain ⟨hGoesOn, hCalls⟩ := goesOnAs_after hStop hStart
  rw [Loops.noteAll_quiet hCalls, Minds, Minds, hasClient_of_rel hGoesOn]

/-- A service minds the loops after a request if it has minded them before, and if the request is no
stop at which the loop that goes on is left behind. -/
theorem minds_after [Host] (hNumbered : ∀ n ∈ l.running, n ≤ l.created) (s : Service)
    (request : Request) :
    Minds (l.noteAll (s.calls request)) (s.after request) ↔
      s.Minds l ∧ ∀ broker, request = .stop broker →
        broker.disconnectFault = none ∨ l.running = [] := by
  cases request with
  | stop broker => simpa [calls, after, serve] using s.minds_stop broker
  | start given tree broker seconds =>
    simp only [reduceCtorEq, false_implies, implies_true, and_true]
    cases hReceiver : s.receiver with
    | some r => exact minds_of_goesOn rfl fun _ => by simp [hReceiver]
    | none =>
      have hNone : s.hasClient = false := by simp [hasClient, hReceiver]
      rw [minds_of_no_client hNone]
      simp only [calls, after, serve]
      obtain ⟨fault, -, hStart⟩ | ⟨chosen, -, hStart⟩ :=
        start_of_none given tree broker seconds hReceiver
      · rw [hStart]
        exact minds_of_no_client rfl
      · rw [hStart]
        exact minds_start hNumbered chosen broker seconds _ s.retired
  | look | message | drop | acknowledge =>
    simp only [reduceCtorEq, false_implies, implies_true, and_true]
    exact minds_of_goesOn rfl fun hStart => by cases hStart

theorem endsAtStops_concat [Host] (s : Service) (requests : List Request) (last : Request) :
    s.EndsAtStops (requests ++ [last]) ↔
      s.EndsAtStops requests ∧ ∀ broker, last = .stop broker →
        broker.disconnectFault = none ∨ (s.loops requests).running = [] := by
  constructor
  · intro h
    refine ⟨fun before broker rest hRequests => ?_, ?_⟩
    · exact h before broker (rest ++ [last]) (by simp [hRequests])
    · rintro broker rfl
      exact h requests broker [] rfl
  · rintro ⟨hEarlier, hLast⟩ before broker rest hRequests
    obtain rfl | ⟨rest, final, rfl⟩ := rest.eq_nil_or_concat'
    · obtain ⟨rfl, hStop⟩ := List.append_inj' hRequests rfl
      exact hLast broker (List.cons.inj hStop).1
    · rw [← List.cons_append, ← List.append_assoc] at hRequests
      exact hEarlier before broker rest (List.append_inj' hRequests rfl).1

/-- A service minds the loops that its requests have begun as long as each stop has ended the one
that went on. -/
theorem minds_run [Host] (s : Service) (requests : List Request) :
    (s.run requests).Minds (s.loops requests) ↔ s.EndsAtStops requests := by
  induction requests using List.reverseRecOn with
  | nil =>
    refine iff_of_true (fun n hRunning => ?_) fun before broker rest hRequests => ?_
    · cases hRunning
    · simp at hRequests
  | append_singleton requests last ih =>
    have hNumbered : ∀ n ∈ (s.loops requests).running, n ≤ (s.loops requests).created :=
      Loops.numbered_noteAll _ fun n hRunning => by cases hRunning
    rw [run_concat, loops_concat, endsAtStops_concat, minds_after hNumbered, ih]

/-- A service that begins without a receiver, whatever is asked of it. It creates a client only when
it is started without having a receiver. A start that returns says whether the receiver runs; with
a receiver it does nothing else, so until the next stop all starts return the same; and one without
a receiver that finds no settings fails to return, makes none and makes no calls. After a stop there
is no receiver, and no loop goes on exactly if at each stop that came while one did a client could
disconnect. -/
theorem lifecycle [Host] (environment : Environment) (requests : List Request) :
    let begun : Service := ⟨environment, none, none⟩
    let s := begun.run requests
    (∀ request name transport, .create name transport ∈ s.calls request →
      request.isStart = true ∧ s.receiver = none) ∧
    (∀ given tree broker seconds,
      let started := s.start given tree broker seconds
      (∀ running, started.result = .ok running →
        started.service.receiver.map (·.running) = some running ∧
        ∀ later, (∀ request ∈ later, request.isStop = false) →
          ∀ given tree broker seconds,
            let since := started.service.run later
            since.start given tree broker seconds = ⟨since, .empty, .ok running⟩) ∧
      (∀ r, s.receiver = some r → started = ⟨s, .empty, .ok r.running⟩) ∧
      ∀ fault,
        (started.result = .error fault ↔
          s.receiver = none ∧ (settings tree s.environment given).2 = .error fault) ∧
        (started.result = .error fault →
          started.service.receiver = none ∧ started.trace = .empty)) ∧
    ∀ broker,
      (s.stop broker).1.receiver = none ∧
        ((begun.loops (requests ++ [.stop broker])).running = [] ↔
          begun.EndsAtStops (requests ++ [.stop broker])) := by
  intro begun s
  refine ⟨fun request name transport hCreate => start_of_create_mem hCreate,
    fun given tree broker seconds => ?_, fun broker => ?_⟩
  · intro started
    refine ⟨fun running hResult => ?_, fun r hReceiver => start_of_receiver _ _ _ _ hReceiver,
      fun fault => ⟨start_eq_error_iff, start_error⟩⟩
    obtain ⟨r, hReceiver, hRunning⟩ := start_ok hResult
    refine ⟨by simp [started, hReceiver, hRunning], fun later hStops given tree broker seconds => ?_⟩
    obtain ⟨r', hLast, hSame⟩ := receiver_run hReceiver hStops
    exact (start_of_receiver given tree broker seconds hLast).trans (by rw [hSame, hRunning])
  · have hNone : (s.stop broker).1.receiver = none := receiver_stop broker s
    have hMinds := begun.minds_run (requests ++ [.stop broker])
    rw [run_concat] at hMinds
    refine ⟨hNone, Iff.trans (minds_of_no_client ?_).symm hMinds⟩
    simp [hasClient, after, serve, s, hNone]

attribute [local instance] Host.usual

/-- A service that nobody has answered does not try again before it is stopped, and the stop ends the
loop of its client. -/
example :
    let silent : Broker := { Broker.welcoming with answer := none }
    let begun : Service := ⟨[], none, none⟩
    let failed : Request := .start (some Process.usualSettings) .empty silent 0
    let again : Request := .start none .empty .welcoming 0
    (begun.loops [failed]).running = [1] ∧ (begun.run [failed, again]).calls again = [] ∧
      (begun.loops [failed, again, .stop .welcoming]).running = [] := by
  decide +kernel

end Service

end TelemetryLog
