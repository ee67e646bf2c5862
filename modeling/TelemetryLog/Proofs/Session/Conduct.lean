import TelemetryLog.Proofs.Session.Link
import TelemetryLog.Run

/-! A link and whatever its clients do. Any call of the link may fail, and while a call is made or
the link waits, word of its clients and messages may come; a broker is what is left of this when a
client is answered once at most. Of what a link comes through all is kept: its calls and entries,
the messages that it hands on, and what has happened to it. -/

namespace TelemetryLog

/-- Whether a call makes a client or makes it ready to connect. -/
def Call.prepares : Call → Bool
  | .create _ _ | .setWebSocketPath _ | .useTls | .setCredentials _ _ => true
  | _ => false

namespace Endpoint

/-- What a client must be given before it may connect to an endpoint. -/
inductive Asks (e : Endpoint) : Call → Prop
  | webSockets (hTransport : e.transport = .text webSockets) : Asks e (.setWebSocketPath e.wsPath)
  | tls (hTls : e.useTls = some true) : Asks e .useTls
  | credentials {username password : String} (hName : e.username = some username ∧ username ≠ "")
      (hPassword : e.password = some password ∧ password ≠ "") :
      Asks e (.setCredentials username password)

theorem credentials?_eq_some {e : Endpoint} {username password : String} :
    e.credentials? = some (username, password) ↔
      (e.username = some username ∧ username ≠ "") ∧ e.password = some password ∧
        password ≠ "" := by
  have hFilter (given : Option String) (text : String) :
      given.filter (· ≠ "") = some text ↔ given = some text ∧ text ≠ "" := by
    simp [Option.filter_eq_some_iff]
  rw [← hFilter, ← hFilter, credentials?]
  split
  · rename_i hName hPassword
    rw [hName, hPassword]
    simp
  · rename_i hNone
    simp only [reduceCtorEq, false_iff, not_and]
    exact hNone username password

theorem mem_preparingCalls {e : Endpoint} {call : Call} :
    call ∈ e.preparingCalls ↔ e.Asks call := by
  unfold preparingCalls
  simp only [List.mem_append, List.mem_ite_nil_right, List.mem_singleton]
  constructor
  · rintro ((⟨hTransport, rfl⟩ | ⟨hTls, rfl⟩) | hCredentials)
    · exact .webSockets hTransport
    · exact .tls hTls
    · split at hCredentials
      · rename_i hSome
        obtain ⟨hName, hPassword⟩ := credentials?_eq_some.mp hSome
        rw [List.mem_singleton.mp hCredentials]
        exact .credentials hName hPassword
      · cases hCredentials
  · intro hAsks
    cases hAsks with
    | webSockets hTransport => exact .inl (.inl ⟨hTransport, rfl⟩)
    | tls hTls => exact .inl (.inr ⟨hTls, rfl⟩)
    | credentials hName hPassword =>
      rw [credentials?_eq_some.mpr ⟨hName, hPassword⟩]
      exact .inr (List.mem_singleton_self _)

theorem prepares_of_mem {e : Endpoint} {name : String} {call : Call}
    (h : call ∈ .create name e.transport :: e.preparingCalls) : call.prepares = true := by
  obtain rfl | hPreparing := List.mem_cons.mp h
  · rfl
  · cases mem_preparingCalls.mp hPreparing <;> rfl

end Endpoint

/-- What a link may hear of the client that it is connecting, its own, or of one that it had before:
that the broker has answered the client, or that it has been lost. -/
inductive Signal where
  | answer (own : Bool) (code : Int)
  | loss (own : Bool) (code : Int)

/-- Whether a link is up once it has heard a signal. -/
def Signal.isAcceptance : Signal → Bool
  | .answer _ code => code = Broker.accepted
  | .loss _ _ => false

/-- What comes to a link by itself. -/
inductive Occurrence where
  | signal (s : Signal)
  | message (m : Message)

/-- What happens to a link. -/
inductive Happening (η : Type) where
  | came (o : Occurrence)
  | takenDown
  | handled (handler : Option η)

/-- How the clients of a link conduct themselves: why calls fail, if they do, and what comes while a
call is made and in each pause of the wait. -/
structure Conduct where
  fault : Call → Option String
  during : Call → List Occurrence
  pauses : Nat → List Occurrence

/-- What a link meets when it tries to connect: the reasons for which no client comes about or none
can connect, if so, and the signals of each pause. Those before the first pause have the number
zero. -/
structure Air where
  createFault : Option String
  connectFault : Option String
  signals : Nat → List Signal

/-- What is in the air about a broker, which answers the client that is connecting if it answers
one. -/
def Broker.air (broker : Broker) : Air :=
  ⟨broker.createFault, broker.connectFault,
    fun pauses => ((broker.answerAfter? pauses).map (.answer true)).toList⟩

/-- What is in the air, as the conduct of clients that tell of nothing else; they may have a reason
for which they cannot disconnect. -/
def Air.conduct (air : Air) (partingFault : Option String) : Conduct where
  fault
    | .create _ _ => air.createFault
    | .connect _ _ _ => air.connectFault
    | .disconnect => partingFault
    | _ => none
  during
    | .connect _ _ _ => if air.connectFault.isNone then (air.signals 0).map .signal else []
    | _ => []
  pauses pause := (air.signals pause).map .signal

/-- A broker as the conduct of the one client that it answers. -/
def Broker.conduct (broker : Broker) : Conduct := broker.air.conduct broker.disconnectFault

/-- A link, and all that it has come through. Each message that it has handed on stands with the
handler that took it. -/
structure Course (η : Type) extends Linked η where
  delivered : List (η × Message)
  history : List (Happening η)

/-- A course at the end of which it is known whether the link has succeeded. -/
structure Trial (η : Type) extends Course η where
  success : Bool

namespace Trace

theorem ext {t u : Trace} (hCalls : t.calls = u.calls) (hJournal : t.journal = u.journal) :
    t = u := by
  cases t
  cases u
  simp_all

@[simp] theorem append_empty (t : Trace) : t ++ empty = t := ext (by simp) (by simp)

theorem append_assoc (t u v : Trace) : t ++ u ++ v = t ++ (u ++ v) := ext (by simp) (by simp)

end Trace

namespace Course

variable {η : Type}

def leaving (link : Link η) (trace : Trace) : Course η := ⟨⟨link, trace⟩, [], []⟩

def andThen (first later : Course η) : Course η :=
  ⟨⟨later.link, first.trace ++ later.trace⟩, first.delivered ++ later.delivered,
    first.history ++ later.history⟩

def leadsTo (first : Course η) (trial : Trial η) : Trial η :=
  ⟨first.andThen trial.toCourse, trial.success⟩

theorem leadsTo_andThen (first second : Course η) (trial : Trial η) :
    (first.andThen second).leadsTo trial = first.leadsTo (second.leadsTo trial) := by
  simp [leadsTo, andThen, Trace.append_assoc]

end Course

def Trial.attempt {η : Type} (trial : Trial η) : Attempt η := ⟨trial.toLinked, trial.success⟩

namespace Link

variable {η : Type}

/-- Meets what comes: a message goes to the handler, if there is one. -/
def meet (link : Link η) (o : Occurrence) : Course η :=
  match o with
  | .signal (.answer _ code) => ⟨link.acknowledge code, [], [.came o]⟩
  | .signal (.loss _ code) => ⟨link.drop code, [], [.came o]⟩
  | .message m => ⟨⟨link, .empty⟩, (link.handler.map (·, m)).toList, [.came o]⟩

def meetAll (link : Link η) : List Occurrence → Course η
  | [] => .leaving link .empty
  | o :: rest => (link.meet o).andThen ((link.meet o).link.meetAll rest)

/-- Makes a call, which may fail, and meets what comes meanwhile. -/
def make (conduct : Conduct) (call : Call) (link : Link η) : Course η :=
  (Course.leaving link (.ofCalls [call])).andThen (link.meetAll (conduct.during call))

/-- Makes calls and goes on from there, unless one of them fails. -/
def making (conduct : Conduct) (failing : String → Entry) (next : Link η → Trial η) :
    List Call → Link η → Trial η
  | [], link => next link
  | call :: rest, link =>
    let made := link.make conduct call
    made.leadsTo <|
      match conduct.fault call with
      | some reason => ⟨.leaving made.link (.ofEntry (failing reason)), false⟩
      | none => made.link.making conduct failing next rest

/-- Waits as `Link.wait` does, and meets whatever comes meanwhile. -/
def waitAmong (conduct : Conduct) (pauses : Nat) (link : Link η) : Nat → Trial η
  | 0 => ⟨.leaving link (.ofEntry (.error "[MQTT] Connection timeout")), false⟩
  | left + 1 =>
    if link.connected then ⟨.leaving link .empty, true⟩
    else
      let met := link.meetAll (conduct.pauses (pauses + 1))
      met.leadsTo (met.link.waitAmong conduct (pauses + 1) left)

def attachAmong (conduct : Conduct) (link : Link η) : Trial η :=
  match link.endpoint.portNumber with
  | some portNumber =>
    (Course.leaving link (.ofEntry link.endpoint.connectingEntry)).leadsTo <|
      link.making conduct failureEntry (fun link => link.waitAmong conduct 0 patience)
        [link.endpoint.connectCall portNumber, .startLoop]
  | none => ⟨.leaving link (.ofEntry (failureEntry noNumberReason)), false⟩

/-- Connects as `Link.connect` does, whatever the clients do. -/
def connectAmong (conduct : Conduct) (link : Link η) : Trial η :=
  link.making conduct failureEntry
    (fun link => { link with hasClient := true }.attachAmong conduct)
    (link.createCall :: link.endpoint.preparingCalls)

def takeDown (link : Link η) : Course η :=
  ⟨⟨{ link with connected := false }, .empty⟩, [], [.takenDown]⟩

def partingFailure (reason : String) : Entry := .warning ("[MQTT] Disconnect error: " ++ reason)

/-- Disconnects as `Link.disconnect` does, whatever the clients do. -/
def disconnectAmong (conduct : Conduct) (link : Link η) : Course η :=
  let parted : Course η :=
    if link.hasClient then
      (link.making conduct partingFailure (fun link => ⟨.leaving link .empty, true⟩)
        [.disconnect, .stopLoop]).toCourse
    else .leaving link .empty
  parted.andThen parted.link.takeDown

theorem meet_link (link : Link η) (o : Occurrence) :
    ∃ connected, (link.meet o).link = { link with connected } := by
  cases o with
  | message m => exact ⟨link.connected, rfl⟩
  | signal s =>
    cases s with
    | answer own code => exact acknowledge_link link code
    | loss own code => exact ⟨false, rfl⟩

theorem meetAll_link (link : Link η) (occurrences : List Occurrence) :
    ∃ connected, (link.meetAll occurrences).link = { link with connected } := by
  induction occurrences generalizing link with
  | nil => exact ⟨link.connected, rfl⟩
  | cons o rest ih =>
    obtain ⟨met, hMet⟩ := link.meet_link o
    obtain ⟨connected, hRest⟩ := ih (link.meet o).link
    exact ⟨connected, hRest.trans (by rw [hMet])⟩

/-- Waiting makes no other difference to a link than whether it is up. -/
theorem waitAmong_link (conduct : Conduct) (pauses : Nat) (link : Link η) (left : Nat) :
    ∃ connected, (link.waitAmong conduct pauses left).link = { link with connected } := by
  induction left generalizing pauses link with
  | zero => exact ⟨link.connected, rfl⟩
  | succ left ih =>
    rw [waitAmong]
    split
    · exact ⟨link.connected, rfl⟩
    · obtain ⟨met, hMet⟩ := link.meetAll_link (conduct.pauses (pauses + 1))
      obtain ⟨connected, hRest⟩ :=
        ih (pauses + 1) (link.meetAll (conduct.pauses (pauses + 1))).link
      exact ⟨connected, hRest.trans (by rw [hMet])⟩

theorem make_quiet {conduct : Conduct} {call : Call} (h : conduct.during call = [])
    (link : Link η) : link.make conduct call = .leaving link (.ofCalls [call]) := by
  rw [make, h]
  rfl

/-- Calls that do not fail, and during which nothing comes, make no difference to what follows but
that they are made. -/
theorem making_quiet {conduct : Conduct} (failing : String → Entry) (next : Link η → Trial η)
    {calls : List Call} (h : ∀ call ∈ calls, conduct.fault call = none ∧ conduct.during call = [])
    (link : Link η) :
    link.making conduct failing next calls =
      (Course.leaving link (.ofCalls calls)).leadsTo (next link) := by
  induction calls with
  | nil => rfl
  | cons call rest ih =>
    obtain ⟨⟨hFault, hDuring⟩, hRest⟩ := List.forall_mem_cons.mp h
    rw [making, hFault, make_quiet hDuring]
    simp only [ih hRest, Course.leaving]
    rfl

section Air

variable {air : Air} {parting : Option String} {link : Link η} {portNumber : Int} {reason : String}

theorem during_connectCall (e : Endpoint) :
    (air.conduct parting).during (e.connectCall portNumber) =
      if air.connectFault.isNone then (air.signals 0).map .signal else [] := rfl

theorem quiet_preparingCalls {e : Endpoint} {call : Call} (h : call ∈ e.preparingCalls) :
    (air.conduct parting).fault call = none ∧ (air.conduct parting).during call = [] := by
  cases Endpoint.mem_preparingCalls.mp h <;> exact ⟨rfl, rfl⟩

theorem connectAmong_of_createFault (h : air.createFault = some reason) :
    link.connectAmong (air.conduct parting) =
      (Course.leaving link (.ofCalls [link.createCall])).leadsTo
        ⟨.leaving link (.ofEntry (failureEntry reason)), false⟩ := by
  have hFault : (air.conduct parting).fault link.createCall = some reason := h
  have hDuring : (air.conduct parting).during link.createCall = [] := rfl
  rw [connectAmong, making, hFault, make_quiet hDuring]
  rfl

theorem connectAmong_of_no_fault (h : air.createFault = none) :
    link.connectAmong (air.conduct parting) =
      (Course.leaving link (.ofCalls (link.createCall :: link.endpoint.preparingCalls))).leadsTo
        ({ link with hasClient := true }.attachAmong (air.conduct parting)) := by
  refine making_quiet _ _ (fun call hCall => ?_) link
  obtain rfl | hPreparing := List.mem_cons.mp hCall
  · exact ⟨h, rfl⟩
  · exact quiet_preparingCalls hPreparing

theorem attachAmong_of_no_port (h : link.endpoint.portNumber = none) :
    link.attachAmong (air.conduct parting) =
      ⟨.leaving link (.ofEntry (failureEntry noNumberReason)), false⟩ := by
  simp only [attachAmong, h]

theorem attachAmong_of_connectFault (hPort : link.endpoint.portNumber = some portNumber)
    (h : air.connectFault = some reason) :
    link.attachAmong (air.conduct parting) =
      (Course.leaving link
        ⟨[link.endpoint.connectCall portNumber], [link.endpoint.connectingEntry]⟩).leadsTo
        ⟨.leaving link (.ofEntry (failureEntry reason)), false⟩ := by
  have hFault : (air.conduct parting).fault (link.endpoint.connectCall portNumber) =
    some reason := h
  have hDuring : (air.conduct parting).during (link.endpoint.connectCall portNumber) = [] := by
    rw [during_connectCall, h]
    rfl
  simp only [attachAmong, hPort, making, hFault, make_quiet hDuring]
  rfl

/-- What comes while a client connects is met before its loop begins. -/
theorem attachAmong_of_no_fault (hPort : link.endpoint.portNumber = some portNumber)
    (h : air.connectFault = none) :
    let met := link.meetAll ((air.signals 0).map .signal)
    link.attachAmong (air.conduct parting) =
      (Course.leaving link
        ⟨[link.endpoint.connectCall portNumber], [link.endpoint.connectingEntry]⟩).leadsTo
        (met.leadsTo ((Course.leaving met.link (.ofCalls [.startLoop])).leadsTo
          (met.link.waitAmong (air.conduct parting) 0 patience))) := by
  intro met
  have hFault : (air.conduct parting).fault (link.endpoint.connectCall portNumber) = none := h
  have hLoop : (air.conduct parting).fault .startLoop = none := rfl
  have hDuring : (air.conduct parting).during .startLoop = [] := rfl
  simp only [attachAmong, hPort, making, hFault, hLoop, make_quiet hDuring]
  rw [make, during_connectCall, h]
  simp only [Course.leadsTo_andThen]
  rfl

end Air

section Broker

variable (broker : Broker) (parting : Option String) (link : Link η)

theorem meetAll_air (pauses : Nat) :
    (link.meetAll ((broker.air.signals pauses).map .signal)).toLinked =
      link.hear broker pauses := by
  cases hAnswer : broker.answerAfter? pauses with
  | none =>
    simp only [hear, Broker.air, hAnswer]
    rfl
  | some code =>
    simp only [hear, Broker.air, hAnswer]
    exact congrArg (Linked.mk _) (Trace.append_empty _)

theorem attempt_waitAmong (pauses left : Nat) :
    (link.waitAmong (broker.air.conduct parting) pauses left).attempt =
      link.wait broker pauses left := by
  induction left generalizing pauses link with
  | zero => rfl
  | succ left ih =>
    rw [waitAmong, wait]
    split
    · rfl
    · simp only [← meetAll_air, ← ih]
      rfl

theorem attempt_attachAmong :
    (link.attachAmong (broker.air.conduct parting)).attempt = link.attachToHost broker := by
  have hConnect : broker.air.connectFault = broker.connectFault := rfl
  unfold attachToHost
  cases hPort : link.endpoint.portNumber with
  | none =>
    rw [attachAmong_of_no_port hPort]
    rfl
  | some portNumber =>
    simp only [attach]
    cases hFault : broker.connectFault with
    | some reason =>
      rw [attachAmong_of_connectFault hPort (hConnect.trans hFault)]
      rfl
    | none =>
      rw [attachAmong_of_no_fault hPort (hConnect.trans hFault)]
      simp only [← meetAll_air, ← attempt_waitAmong broker parting]
      refine congrArg (fun trace => (⟨⟨_, trace⟩, _⟩ : Attempt η)) (Trace.ext ?_ ?_)
      · simp [Course.andThen, Course.leadsTo, Course.leaving, Trial.attempt]
      · simp [Course.andThen, Course.leadsTo, Course.leaving, Trial.attempt]

/-- A link meets a broker as it meets what is in the air about it. -/
theorem attempt_connectAmong_air :
    (link.connectAmong (broker.air.conduct parting)).attempt = link.connect broker := by
  have hCreate : broker.air.createFault = broker.createFault := rfl
  unfold connect
  cases hFault : broker.createFault with
  | some reason =>
    rw [connectAmong_of_createFault (hCreate.trans hFault)]
    rfl
  | none =>
    rw [connectAmong_of_no_fault (hCreate.trans hFault)]
    simp only [← attempt_attachAmong broker parting]
    refine congrArg (fun trace => (⟨⟨_, trace⟩, _⟩ : Attempt η)) (Trace.ext ?_ ?_)
    · simp [Course.leaving, Trial.attempt]
    · simp [Course.leaving, Trial.attempt]

theorem attempt_connectAmong :
    (link.connectAmong broker.conduct).attempt = link.connect broker :=
  attempt_connectAmong_air broker _ link

theorem toLinked_disconnectAmong :
    (link.disconnectAmong broker.conduct).toLinked = link.disconnect broker := by
  have hFault : broker.conduct.fault .disconnect = broker.disconnectFault := rfl
  unfold disconnectAmong disconnect
  by_cases hClient : link.hasClient = true
  · simp only [if_pos hClient, making, hFault]
    cases hDisconnect : broker.disconnectFault with
    | none => rfl
    | some reason => rfl
  · simp only [if_neg hClient]
    rfl

end Broker

end Link

end TelemetryLog
