import TelemetryLog.Journal
import TelemetryLog.Settings.GivenText

/-! What a session leaves behind: the calls that it makes to its client of the broker and the
entries that it makes in the journal, each in their order. -/

namespace TelemetryLog

/-- A call to a client of the broker. Each call is made to the client that was created last. -/
inductive Call where
  | create (clientId : String) (transport : GivenText)
  | setWebSocketPath (path : GivenText)
  | useTls
  | setCredentials (username password : String)
  | connect (host : GivenText) (portNumber : Int) (keepAlive : Nat)
  | startLoop
  | subscribe (topic : GivenText) (qos : Option Int)
  | disconnect
  | stopLoop
  deriving DecidableEq, Repr

structure Trace where
  calls : List Call
  journal : List Entry
  deriving DecidableEq, Repr

namespace Trace

def empty : Trace := ⟨[], []⟩

def ofCalls (calls : List Call) : Trace := ⟨calls, []⟩

def ofEntry (entry : Entry) : Trace := ⟨[], [entry]⟩

instance : Append Trace := ⟨fun a b => ⟨a.calls ++ b.calls, a.journal ++ b.journal⟩⟩

@[simp] theorem calls_append (a b : Trace) : (a ++ b).calls = a.calls ++ b.calls := rfl

@[simp] theorem journal_append (a b : Trace) : (a ++ b).journal = a.journal ++ b.journal := rfl

@[simp] theorem calls_empty : empty.calls = [] := rfl

@[simp] theorem journal_empty : empty.journal = [] := rfl

@[simp] theorem calls_ofCalls (calls : List Call) : (ofCalls calls).calls = calls := rfl

@[simp] theorem journal_ofCalls (calls : List Call) : (ofCalls calls).journal = [] := rfl

@[simp] theorem calls_ofEntry (entry : Entry) : (ofEntry entry).calls = [] := rfl

@[simp] theorem journal_ofEntry (entry : Entry) : (ofEntry entry).journal = [entry] := rfl

end Trace

end TelemetryLog
