import TelemetryLog.Proofs.Receiver.Pipelines
import TelemetryLog.Run

/-! A station: a receiver beside the tree in which it writes its log. At a station the receiver is
built, started and stopped, messages come, the broker that it reaches is lost and found again, and
others change the tree as they like. What each of these does to the settings, to the intake, to the
client of the link and to the flag that the receiver runs is said once; of a run the calls are kept. -/

namespace TelemetryLog

structure Station where
  receiver : Receiver
  tree : Tree

namespace Station

/-- What can happen at a station. The broker may be another one each time. -/
inductive Turn where
  | build
  | start (broker : Broker) (seconds : Int)
  | stop (broker : Broker)
  | handle (m : Message)
  | message (m : Message)
  | drop (code : Int)
  | acknowledge (code : Int)
  | change (alter : Tree → Tree)

def Turn.isStart : Turn → Bool
  | .start .. => true
  | _ => false

/-- A station whose receiver has not been started. -/
def fresh (settings : Settings) (threshold : Threshold) (tree : Tree) : Station :=
  ⟨.new settings threshold, tree⟩

def withReceiver (r : Receiver) (s : Station) : Station := { s with receiver := r }

def delivered (done : Delivered) : Station := ⟨done.receiver, done.tree⟩

variable [Host]

def after (zone : Zone) (s : Station) : Turn → Station
  | .build =>
    match s.receiver.build with
    | .ok built => s.withReceiver built
    | .error _ => s
  | .start broker seconds => s.withReceiver (s.receiver.start broker seconds).receiver
  | .stop broker => s.withReceiver (s.receiver.stop broker).receiver
  | .handle m => delivered (s.receiver.handle zone s.tree m.topic m.payload)
  | .message m => delivered (s.receiver.deliver zone s.tree m.topic m.payload)
  | .drop code => s.withReceiver (s.receiver.drop code).receiver
  | .acknowledge code => s.withReceiver (s.receiver.acknowledge code).receiver
  | .change alter => { s with tree := alter s.tree }

/-- The calls that are made to clients when something happens at a station. -/
def calls (s : Station) : Turn → List Call
  | .start broker seconds => (s.receiver.start broker seconds).trace.calls
  | .stop broker => (s.receiver.stop broker).trace.calls
  | .drop code => (s.receiver.drop code).trace.calls
  | .acknowledge code => (s.receiver.acknowledge code).trace.calls
  | .build | .handle _ | .message _ | .change _ => []

def run (zone : Zone) (s : Station) (turns : List Turn) : Station := turns.foldl (after zone) s

/-- All calls of a run, in order. -/
def callsOf (zone : Zone) (s : Station) : List Turn → List Call
  | [] => []
  | turn :: rest => s.calls turn ++ (s.after zone turn).callsOf zone rest

@[simp] theorem run_nil (zone : Zone) (s : Station) : s.run zone [] = s := rfl

@[simp] theorem run_cons (zone : Zone) (s : Station) (turn : Turn) (rest : List Turn) :
    s.run zone (turn :: rest) = (s.after zone turn).run zone rest := rfl

end Station

/-- The calls by which a client leaves a broker; it keeps its loop if it cannot disconnect. -/
def Broker.partingCalls (broker : Broker) : List Call :=
  .disconnect :: if broker.disconnectFault.isNone then [.stopLoop] else []

/-- The calls that a receiver makes when it is stopped at a broker. -/
def Receiver.partingCalls (broker : Broker) (r : Receiver) : List Call :=
  if r.hasClient then broker.partingCalls else []

theorem Receiver.mem_partingCalls {broker : Broker} {r : Receiver} {call : Call}
    (h : call ∈ r.partingCalls broker) : call = .disconnect ∨ call = .stopLoop := by
  unfold partingCalls Broker.partingCalls at h
  split at h
  · split at h <;> simp_all
  · cases h

namespace Receiver

/-- What a receiver keeps when it is neither started nor stopped. -/
structure GoesOnAs (r r' : Receiver) : Prop where
  settings : r'.settings = r.settings
  running : r'.running = r.running
  hasClient : r'.hasClient = r.hasClient
  intake : r.intake.isSome = true → r'.intake.isSome = true

/-- What a start makes of a receiver whose settings give a path. -/
structure StartedFrom (broker : Broker) (seconds : Int) (r : Receiver) (started : Started) :
    Prop where
  settings : started.receiver.settings = r.settings
  running : started.receiver.running = (started.success || r.running)
  hasClient : started.receiver.hasClient = broker.createFault.isNone
  intake : started.receiver.intake.isSome = true
  calls : started.trace.calls.filter Call.concernsLoops =
    (freshLink r.settings seconds).createCall ::
      if r.settings.endpoint.beginsLoop broker then [.startLoop] else []

/-- What a stop makes of a receiver. The loop of its client ends if there is a client and it can
disconnect. -/
structure StoppedFrom (broker : Broker) (r : Receiver) (stopped : Received) : Prop where
  settings : stopped.receiver.settings = r.settings
  running : stopped.receiver.running = false
  hasClient : stopped.receiver.hasClient = r.hasClient
  calls : stopped.trace.calls.filter Call.concernsLoops =
    if r.hasClient && broker.disconnectFault.isNone then [.stopLoop] else []

variable {r : Receiver}

theorem GoesOnAs.refl (r : Receiver) : r.GoesOnAs r := ⟨rfl, rfl, rfl, id⟩

theorem startedFrom_start {path : Path} (hPath : r.settings.outputPath = .ok path)
    (broker : Broker) (seconds : Int) : StartedFrom broker seconds r (r.start broker seconds) := by
  obtain ⟨connected, hLink⟩ := (freshLink r.settings seconds).connect_link broker
  have hClient : ((freshLink r.settings seconds).connect broker).link.hasClient =
      broker.createFault.isNone := by
    rw [hLink]
    exact Bool.false_or _
  have hCalls : ((freshLink r.settings seconds).connect broker).trace.calls.filter
      Call.concernsLoops = (freshLink r.settings seconds).createCall ::
        if r.settings.endpoint.beginsLoop broker then [.startLoop] else [] :=
    Link.filter_calls_connect broker _
  rw [start, startBy_of_path hPath]
  exact ⟨rfl, rfl, hClient, rfl, by simpa using hCalls⟩

theorem settings_start (broker : Broker) (seconds : Int) :
    (r.start broker seconds).receiver.settings = r.settings := by
  cases hPath : r.settings.outputPath with
  | error fault => exact congrArg Receiver.settings (start_of_no_path hPath broker seconds).1
  | ok path => exact (startedFrom_start hPath broker seconds).settings

theorem calls_stop (broker : Broker) (r : Receiver) :
    (r.stop broker).trace.calls = r.partingCalls broker := by
  unfold stop partingCalls
  split
  · rename_i link hLink
    simp only [hasClient, hLink, Option.any_some, Link.disconnect, Trace.calls_append,
      List.append_nil]
    split
    · unfold Broker.partingCalls
      split <;> simp_all
    · rfl
  · rename_i hLink
    simp [hasClient, hLink]

theorem stoppedFrom_stop (broker : Broker) (r : Receiver) :
    StoppedFrom broker r (r.stop broker) := by
  refine ⟨?_, ?_, ?_, ?_⟩
  · unfold stop
    split <;> rfl
  · unfold stop
    split <;> rfl
  · unfold stop
    split <;> simp_all [hasClient, Link.disconnect]
  · rw [calls_stop, partingCalls, Broker.partingCalls]
    cases r.hasClient <;> cases broker.disconnectFault <;> rfl

theorem goesOnAs_build {built : Receiver} (h : r.build = .ok built) : GoesOnAs r built := by
  rw [build] at h
  cases hPath : r.settings.outputPath with
  | error fault => simp [hPath, Except.map] at h
  | ok path =>
    simp only [hPath, Except.map, Except.ok.injEq] at h
    subst h
    exact ⟨rfl, rfl, hasClient_buildAt path r, fun _ => rfl⟩

/-- A change of the link that the broker reaches, by which its client neither comes nor goes. -/
theorem goesOnAs_withReached {link link' : Link Feed} (hReached : r.reached? = some link)
    (h : link'.hasClient = link.hasClient) : GoesOnAs r (r.withReached link') := by
  unfold withReached
  unfold reached? at hReached
  split
  · rename_i hClient
    rw [if_pos hClient] at hReached
    refine ⟨rfl, rfl, ?_, id⟩
    simp [hasClient, hReached, h]
  · exact ⟨rfl, rfl, rfl, id⟩

theorem goesOnAs_onReached {event : Link Feed → Linked Feed}
    (h : ∀ link, (event link).link.hasClient = link.hasClient) (r : Receiver) :
    GoesOnAs r (r.onReached event).receiver := by
  unfold onReached
  split
  · exact goesOnAs_withReached ‹_› (h _)
  · exact .refl r

theorem filter_calls_onReached {event : Link Feed → Linked Feed}
    (h : ∀ link, (event link).trace.calls.filter Call.concernsLoops = []) (r : Receiver) :
    (r.onReached event).trace.calls.filter Call.concernsLoops = [] := by
  unfold onReached
  split
  · exact h _
  · rfl

section Message

variable [Host] (zone : Zone) (tree : Tree) (topic : Value) (payload : Option Payload)
  (r : Receiver)

theorem goesOnAs_handle : GoesOnAs r (r.handle zone tree topic payload).receiver := by
  unfold handle
  split
  · exact ⟨rfl, rfl, rfl, fun _ => rfl⟩
  · exact .refl r

theorem goesOnAs_deliver : GoesOnAs r (r.deliver zone tree topic payload).receiver := by
  unfold deliver
  split
  · unfold deliverOver
    split
    · exact goesOnAs_handle zone tree topic payload r
    · rename_i link hReached _ _ _
      exact @goesOnAs_withReached r link _ hReached rfl
    · exact .refl r
  · exact .refl r

end Message

end Receiver

namespace Station

/-- Neither a start nor a stop. -/
def Turn.isQuiet : Turn → Bool
  | .start .. | .stop _ => false
  | _ => true

/-- What comes over the link: messages, and that it is lost or answered. -/
def Turn.comesOverLink : Turn → Bool
  | .message _ | .drop _ | .acknowledge _ => true
  | _ => false

theorem Turn.isQuiet_of_comesOverLink {turn : Turn} (h : turn.comesOverLink = true) :
    turn.isQuiet = true := by
  cases turn with
  | start | stop => cases h
  | _ => rfl

/-- The receiver goes on as it is when it is neither started nor stopped, and nothing is done about
loops. -/
theorem goesOnAs_after [Host] (zone : Zone) (s : Station) {turn : Turn} (h : turn.isQuiet = true) :
    s.receiver.GoesOnAs (s.after zone turn).receiver ∧
      (s.calls turn).filter Call.concernsLoops = [] := by
  cases turn with
  | start | stop => cases h
  | build =>
    refine ⟨?_, rfl⟩
    simp only [after]
    split
    · exact Receiver.goesOnAs_build ‹_›
    · exact .refl _
  | handle m => exact ⟨Receiver.goesOnAs_handle zone s.tree m.topic m.payload _, rfl⟩
  | message m => exact ⟨Receiver.goesOnAs_deliver zone s.tree m.topic m.payload _, rfl⟩
  | drop code =>
    exact ⟨Receiver.goesOnAs_onReached (fun _ => rfl) _,
      Receiver.filter_calls_onReached (fun _ => rfl) _⟩
  | acknowledge code =>
    refine ⟨Receiver.goesOnAs_onReached (fun link => ?_) _,
      Receiver.filter_calls_onReached (fun link => link.filter_calls_acknowledge code) _⟩
    obtain ⟨connected, hLink⟩ := link.acknowledge_link code
    rw [hLink]
  | change alter => exact ⟨.refl _, rfl⟩

end Station

end TelemetryLog
