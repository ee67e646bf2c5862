import TelemetryLog.Accounts
import TelemetryLog.Dispatch
import TelemetryLog.Report

/-! The intake of messages: each message is classified, dispatched, accounted for and reported. A
message that has no outcome is noted as an error and goes no further; one whose report cannot be
finished is noted so too, and counts as failed beside what its outcome counts as. -/

namespace TelemetryLog

/-- What takes messages in. From time to time, after so many messages, the accounts are put into
the journal; zero stands for never. -/
structure Intake where
  dispatcher : Dispatcher
  accounts : Accounts
  statsEvery : Int
  threshold : Threshold
  deriving DecidableEq, Repr

structure Handled where
  tree : Tree
  intake : Intake
  journal : List Entry
  outcome : Option Outcome

namespace Intake

def new (dispatcher : Dispatcher) (statsEvery : Int) (threshold : Threshold) : Intake :=
  ⟨dispatcher, .zero, statsEvery, threshold⟩

def isDue (every received : Int) : Bool := every ≠ 0 && received % every = 0

def statsEntries (every : Int) (accounts : Accounts) : List Entry :=
  if isDue every accounts.received then [.info ("[HANDLER] " ++ accounts.text)] else []

def failureEntry (reason : String) (topic : Value) : Entry :=
  .error ("[HANDLER] Error: " ++ reason ++ " (topic=" ++ String.ofList topic.plain ++ ")")

def handle [Host] (zone : Zone) (intake : Intake) (tree : Tree) (topic : Value)
    (payload : Option Payload) : Handled :=
  let received := intake.accounts.receive
  let done := intake.dispatcher.dispatch zone tree (.classify topic) topic payload
  let intake := { intake with dispatcher := done.dispatcher }
  match done.result with
  | .ok outcome =>
    let accounts := received.record outcome
    match Report.told intake.threshold (Report.ofOutcome outcome) with
    | (report, none) =>
      ⟨done.tree, { intake with accounts },
        done.journal ++ report ++ statsEntries intake.statsEvery accounts, some outcome⟩
    | (report, some fault) =>
      ⟨done.tree, { intake with accounts := accounts.fail },
        done.journal ++ report ++ [failureEntry fault.message topic], none⟩
  | .error fault =>
    ⟨done.tree, { intake with accounts := received.fail },
      done.journal ++ [failureEntry fault.message topic], none⟩

def reset (intake : Intake) : Intake := { intake with accounts := .zero }

end Intake

end TelemetryLog
