import Mathlib.Tactic.Common
import TelemetryLog.Session.Link

/-! The loop of a client. Hearing the broker and waiting for it make no calls that concern it; the
loop begins when the client has come about and has got as far as to connect. -/

namespace TelemetryLog

/-- Whether a call creates a client, or begins or ends the loop of one. -/
def Call.concernsLoops : Call → Bool
  | .create _ _ | .startLoop | .stopLoop => true
  | _ => false

/-- Whether the loop of a client begins when a link to the endpoint tries to connect. -/
def Endpoint.beginsLoop (broker : Broker) (e : Endpoint) : Bool :=
  broker.createFault.isNone && e.portNumber.isSome && broker.connectFault.isNone

namespace Link

variable {η : Type}

theorem acknowledge_link (link : Link η) (code : Int) :
    ∃ connected, (link.acknowledge code).link = { link with connected } := by
  unfold acknowledge
  split
  · exact ⟨true, rfl⟩
  · exact ⟨false, rfl⟩

section Calls

variable (broker : Broker) (link : Link η)

theorem filter_preparingCalls (e : Endpoint) :
    e.preparingCalls.filter Call.concernsLoops = [] := by
  unfold Endpoint.preparingCalls
  cases e.credentials? <;> split <;> split <;> rfl

theorem filter_calls_acknowledge (code : Int) :
    (link.acknowledge code).trace.calls.filter Call.concernsLoops = [] := by
  unfold acknowledge
  split <;> rfl

theorem filter_calls_hear (pauses : Nat) :
    (link.hear broker pauses).trace.calls.filter Call.concernsLoops = [] := by
  unfold hear
  split
  · exact filter_calls_acknowledge link _
  · rfl

theorem filter_calls_wait (pauses left : Nat) :
    (link.wait broker pauses left).trace.calls.filter Call.concernsLoops = [] := by
  induction left generalizing pauses link with
  | zero => rfl
  | succ left ih =>
    rw [wait]
    split
    · rfl
    · rw [Trace.calls_append, List.filter_append, filter_calls_hear, ih, List.append_nil]

theorem filter_calls_attach (portNumber : Int) :
    (link.attach broker portNumber).trace.calls.filter Call.concernsLoops =
      if broker.connectFault.isNone then [.startLoop] else [] := by
  unfold attach
  cases broker.connectFault with
  | some reason => rfl
  | none =>
    simp only [Trace.calls_append, Trace.calls_ofCalls, List.filter_append, filter_calls_hear,
      filter_calls_wait]
    rfl

/-- Of the calls that concern loops, connecting makes one that creates a client, and one that begins
its loop if it gets so far. -/
theorem filter_calls_connect :
    (link.connect broker).trace.calls.filter Call.concernsLoops =
      link.createCall :: if link.endpoint.beginsLoop broker then [.startLoop] else [] := by
  unfold connect Endpoint.beginsLoop
  cases broker.createFault with
  | some reason => rfl
  | none =>
    simp only [Trace.calls_append, Trace.calls_ofCalls, List.filter_append, filter_preparingCalls,
      attachToHost]
    cases link.endpoint.portNumber with
    | none => rfl
    | some portNumber =>
      simp only [filter_calls_attach]
      rfl

end Calls

end Link

end TelemetryLog
