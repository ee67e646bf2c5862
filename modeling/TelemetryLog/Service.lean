import TelemetryLog.Receiver

/-! The service: the one receiver of a process, beside the environment of the process, to which
reading the settings adds the variables of a file. A receiver that is given up can still be reached
by the broker until the client of another one comes about. -/

namespace TelemetryLog

structure Service where
  environment : Environment
  receiver : Option Receiver
  /-- The receiver that the broker reaches while the present one has no link to it. -/
  retired : Option Receiver
  deriving DecidableEq, Repr

structure ServiceStart where
  service : Service
  trace : Trace
  result : Except SettingsFault Bool

namespace Service

/-- The settings that are given, or else those of the environment, which is given back with the
variables of the file. -/
def settings (tree : Tree) (environment : Environment) :
    Option Settings → Environment × Except SettingsFault Settings
  | some given => (environment, .ok given)
  | none => Settings.load tree environment none

/-- The service with a receiver that has not been started, unless it has one already. -/
def equip (given : Option Settings) (tree : Tree) (s : Service) :
    Service × Except SettingsFault Receiver :=
  match s.receiver with
  | some receiver => (s, .ok receiver)
  | none =>
    match settings tree s.environment given with
    | (environment, .ok settings) =>
      let receiver := Receiver.new settings .everything
      ({ s with environment, receiver := some receiver }, .ok receiver)
    | (environment, .error fault) => ({ s with environment }, .error fault)

def start (given : Option Settings) (tree : Tree) (broker : Broker) (seconds : Int)
    (s : Service) : ServiceStart :=
  match s.receiver with
  | some receiver => ⟨s, .empty, .ok receiver.running⟩
  | none =>
    match s.equip given tree with
    | (equipped, .ok receiver) =>
      let started := receiver.start broker seconds
      ⟨{ equipped with receiver := some started.receiver }, started.trace, .ok started.success⟩
    | (equipped, .error fault) => ⟨equipped, .empty, .error fault⟩

/-- The receiver to retire: one without a link to the broker leaves the place to the one before. -/
def retire (receiver : Receiver) (before : Option Receiver) : Option Receiver :=
  if receiver.reached?.isSome then some receiver else before

def stop (broker : Broker) (s : Service) : Service × Trace :=
  match s.receiver with
  | some receiver =>
    let stopped := receiver.stop broker
    ({ s with receiver := none, retired := retire stopped.receiver s.retired }, stopped.trace)
  | none => (s, .empty)

/-- The receiver whose client came about last. -/
def reached? (s : Service) : Option Receiver :=
  (s.receiver.filter fun receiver => receiver.reached?.isSome).or s.retired

def withReached (receiver : Receiver) (s : Service) : Service :=
  if s.receiver.any fun present => present.reached?.isSome then
    { s with receiver := some receiver }
  else { s with retired := some receiver }

end Service

end TelemetryLog
