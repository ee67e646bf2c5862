import TelemetryLog.CommandLine
import TelemetryLog.Journal.Threshold
import TelemetryLog.Receiver

/-! A run of the program: it reads the command line and the settings, starts the receiver, takes the
messages in that arrive until it is told to end, and stops the receiver. Of the journal only what
the threshold admits is kept. -/

namespace TelemetryLog

open Text

/-- How a run is told to end: at a terminal by the user, who presses a key or interrupts it, or by a
signal; away from a terminal by a signal. -/
inductive Ending where
  | keyPressed
  | interrupted
  | signalled
  | signalledUnattended
  deriving DecidableEq, Repr

structure Message where
  topic : Value
  payload : Option Payload

/-- A run of the program: what it is given, and what it meets. The time is in seconds. -/
structure Run where
  arguments : List String
  environment : Environment
  tree : Tree
  zone : Zone
  seconds : Int
  broker : Broker
  messages : List Message
  ending : Ending

inductive RunFault where
  | arguments (fault : ArgumentFault)
  | settings (fault : SettingsFault)
  | threshold (fault : ThresholdFault)
  | output (fault : OutputFault)
  deriving DecidableEq, Repr

structure Finish where
  exitCode : Nat
  trace : Trace
  tree : Tree

namespace Ending

def terminationSignal : Nat := 15

def openingEntries : Ending → List Entry
  | .signalledUnattended => []
  | _ => [.info "Application is running. Press Enter to disconnect and exit."]

def closingEntries : Ending → List Entry
  | .keyPressed | .interrupted => []
  | .signalled | .signalledUnattended =>
    [.info ("Signal " ++ String.ofList (digitsOf terminationSignal) ++ " received, shutting down")]

end Ending

namespace Run

def headEntries (settings : Settings) (path : Path) : List Entry :=
  [.info "Datalogger Subscriber",
    .info ("Config: broker=" ++ settings.endpoint.address ++ " transport=" ++
      settings.transport.shown ++ " topic=" ++ settings.topic.shown ++ " output=" ++ path.text)]

variable [Host]

def deliverAll (zone : Zone) (tree : Tree) (receiver : Receiver) :
    List Message → Receiver × Tree × List Entry
  | [] => (receiver, tree, [])
  | message :: rest =>
    let done := receiver.deliver zone tree message.topic message.payload
    let (last, tree, journal) := deliverAll zone done.tree done.receiver rest
    (last, tree, done.journal ++ journal)

def serve (run : Run) (receiver : Receiver) : Trace × Tree :=
  let (last, tree, journal) := deliverAll run.zone run.tree receiver run.messages
  let during := run.ending.openingEntries ++ journal ++ run.ending.closingEntries
  (⟨[], during⟩ ++ (last.stop run.broker).trace, tree)

/-- The course of a run with its settings, before the journal is filtered. -/
def course (run : Run) (settings : Settings) (threshold : Threshold) (path : Path) : Finish :=
  let head : Trace := ⟨[], headEntries settings path⟩
  let started := (Receiver.new settings threshold).start run.broker run.seconds
  if started.success then
    let (served, tree) := run.serve started.receiver
    ⟨0, head ++ started.trace ++ served, tree⟩
  else
    let stopped := started.receiver.stop run.broker
    ⟨1, head ++ started.trace ++ stopped.trace, run.tree⟩

def settings (run : Run) : Except RunFault Settings :=
  match Arguments.parse run.arguments with
  | .error fault => .error (.arguments fault)
  | .ok given =>
    match (Settings.load run.tree run.environment given.askedFile?).2 with
    | .error fault => .error (.settings fault)
    | .ok settings => .ok (settings.override given)

def finish (run : Run) : Except RunFault Finish :=
  match run.settings with
  | .error fault => .error fault
  | .ok settings =>
    match Threshold.ofName settings.logLevel, settings.outputPath with
    | .error fault, _ => .error (.threshold fault)
    | .ok _, .error fault => .error (.output fault)
    | .ok threshold, .ok path =>
      let finish := run.course settings threshold path
      .ok { finish with
        trace := { finish.trace with journal := threshold.filter finish.trace.journal } }

end Run

end TelemetryLog
