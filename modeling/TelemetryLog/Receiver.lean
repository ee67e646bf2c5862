import TelemetryLog.Intake
import TelemetryLog.Session.Link
import TelemetryLog.Settings

/-! The receiver: an intake of messages and a link that feeds it. A start makes both anew; what a
link has been set to feed it goes on feeding, even after the receiver has another intake. The broker
reaches the link whose client came about last. -/

namespace TelemetryLog

/-- Where the messages of a link go: to the intake of the receiver, or to one that it no longer
has. -/
inductive Feed where
  | current
  | former (intake : Intake)
  deriving DecidableEq, Repr

structure Receiver where
  settings : Settings
  threshold : Threshold
  intake : Option Intake
  link : Option (Link Feed)
  /-- The link that the broker reaches while the present one has no client. -/
  formerLink : Option (Link Feed)
  running : Bool
  deriving DecidableEq, Repr

structure Received where
  receiver : Receiver
  trace : Trace

structure Started extends Received where
  success : Bool

structure Delivered where
  receiver : Receiver
  tree : Tree
  journal : List Entry
  outcome : Option Outcome

structure ReceiverStatus where
  running : Bool
  connected : Bool
  address : String
  topic : GivenText
  outputPath : Path
  accounts : Accounts

inductive Health where
  | notInitialized
  | initialized (running connected : Bool) (accounts : Accounts) (writer : LogWriter)

namespace Health

def isHealthy : Health → Bool
  | .notInitialized => false
  | .initialized running connected _ _ => running && connected

def notInitializedReason : String := "Not initialized"

end Health

def Settings.endpoint (s : Settings) : Endpoint :=
  ⟨s.brokerHost, s.brokerPort, s.username, s.password, s.clientId, s.topic, s.qos, s.transport,
    s.wsPath, s.useTls⟩

namespace Receiver

def new (settings : Settings) (threshold : Threshold) : Receiver :=
  ⟨settings, threshold, none, none, none, false⟩

def isConnected (r : Receiver) : Bool :=
  match r.link with
  | some link => link.connected
  | none => false

/-- The intake that writes to a path, with accounts and record numbers from the beginning. -/
def freshIntake (settings : Settings) (threshold : Threshold) (path : Path) : Intake :=
  .new (.new (.new path) .zero "") settings.statsEvery threshold

/-- What a link feeds once the receiver has another intake. -/
def setAside (intake : Option Intake) : Option Feed → Option Feed
  | some .current => intake.map .former
  | feed => feed

def keepFeeding (intake : Option Intake) (link : Link Feed) : Link Feed :=
  link.handledBy (setAside intake link.handler)

def buildAt (path : Path) (r : Receiver) : Receiver :=
  { r with
    intake := some (freshIntake r.settings r.threshold path)
    link := r.link.map (keepFeeding r.intake)
    formerLink := r.formerLink.map (keepFeeding r.intake) }

def build (r : Receiver) : Except OutputFault Receiver := r.settings.outputPath.map (r.buildAt ·)

def hasClient (r : Receiver) : Bool := r.link.any (·.hasClient)

/-- The link whose client came about last. -/
def reached? (r : Receiver) : Option (Link Feed) := if r.hasClient then r.link else r.formerLink

def withReached (link : Link Feed) (r : Receiver) : Receiver :=
  if r.hasClient then { r with link := some link } else { r with formerLink := some link }

def freshLink (settings : Settings) (seconds : Int) : Link Feed :=
  (Link.new settings.endpoint seconds).handledBy (some .current)

def startedEntry (path : Path) : Entry :=
  .info ("[RECEIVER] Started successfully (output=" ++ path.text ++ ")")

/-- Starts the receiver at a time in seconds, in whatever way its link tries to connect. A start
that fails leaves it running if it was. -/
def startBy (connect : Link Feed → Attempt Feed) (seconds : Int) (r : Receiver) : Started :=
  match r.settings.outputPath with
  | .ok path =>
    let attempt := connect (freshLink r.settings seconds)
    let built := r.buildAt path
    let linked := { built with link := some attempt.link, formerLink := built.reached? }
    if attempt.success then
      ⟨⟨{ linked with running := true }, attempt.trace ++ .ofEntry (startedEntry path)⟩, true⟩
    else
      ⟨⟨linked, attempt.trace ++ .ofEntry (.error "[RECEIVER] MQTT connection failed")⟩, false⟩
  | .error fault =>
    ⟨⟨r, .ofEntry (.error ("[RECEIVER] Start failed: " ++ fault.message))⟩, false⟩

def start (broker : Broker) (seconds : Int) (r : Receiver) : Started :=
  r.startBy (·.connect broker) seconds

theorem startBy_of_no_path {r : Receiver} {fault : OutputFault}
    (h : r.settings.outputPath = .error fault) (connect : Link Feed → Attempt Feed)
    (seconds : Int) :
    r.startBy connect seconds =
      ⟨⟨r, .ofEntry (.error ("[RECEIVER] Start failed: " ++ fault.message))⟩, false⟩ := by
  simp only [startBy, h]

/-- With a path the receiver is built anew, and has another link, by which it succeeds or fails. -/
theorem startBy_of_path {r : Receiver} {path : Path} (h : r.settings.outputPath = .ok path)
    (connect : Link Feed → Attempt Feed) (seconds : Int) :
    let attempt := connect (freshLink r.settings seconds)
    r.startBy connect seconds =
      ⟨⟨{ r.buildAt path with
          link := some attempt.link
          formerLink := (r.buildAt path).reached?
          running := attempt.success || r.running },
        attempt.trace ++ .ofEntry (if attempt.success then startedEntry path
          else .error "[RECEIVER] MQTT connection failed")⟩, attempt.success⟩ := by
  intro attempt
  simp only [startBy, h]
  cases hSuccess : attempt.success with
  | true => simp only [if_true, Bool.true_or, attempt]
  | false =>
    simp only [Bool.false_eq_true, if_false, Bool.false_or, attempt]
    rfl

def stoppedEntries : Option Intake → List Entry
  | some intake => [.info ("[RECEIVER] Stopped. " ++ intake.accounts.text)]
  | none => []

def stop (broker : Broker) (r : Receiver) : Received :=
  let stopped := { r with running := false }
  let last : Trace := ⟨[], stoppedEntries r.intake⟩
  match r.link with
  | some link =>
    let down := link.disconnect broker
    ⟨{ stopped with link := some down.link }, down.trace ++ last⟩
  | none => ⟨stopped, last⟩

/-- The receiver after an event of the link that the broker reaches. -/
def onReached (event : Link Feed → Linked Feed) (r : Receiver) : Received :=
  match r.reached? with
  | some link =>
    let after := event link
    ⟨r.withReached after.link, after.trace⟩
  | none => ⟨r, .empty⟩

def drop (code : Int) (r : Receiver) : Received := r.onReached (·.drop code)

def acknowledge (code : Int) (r : Receiver) : Received := r.onReached (·.acknowledge code)

variable [Host]

def handle (zone : Zone) (tree : Tree) (topic : Value) (payload : Option Payload)
    (r : Receiver) : Delivered :=
  match r.intake with
  | some intake =>
    let done := intake.handle zone tree topic payload
    ⟨{ r with intake := some done.intake }, done.tree, done.journal, done.outcome⟩
  | none => ⟨r, tree, [], none⟩

def deliverOver (zone : Zone) (tree : Tree) (topic : Value) (payload : Option Payload)
    (r : Receiver) (link : Link Feed) : Delivered :=
  match link.handler with
  | some .current => r.handle zone tree topic payload
  | some (.former intake) =>
    let done := intake.handle zone tree topic payload
    let link := link.handledBy (some (.former done.intake))
    ⟨r.withReached link, done.tree, done.journal, done.outcome⟩
  | none => ⟨r, tree, [], none⟩

/-- A message arrives over the link that the broker reaches, if there is one. -/
def deliver (zone : Zone) (tree : Tree) (topic : Value) (payload : Option Payload)
    (r : Receiver) : Delivered :=
  match r.reached? with
  | some link => r.deliverOver zone tree topic payload link
  | none => ⟨r, tree, [], none⟩

def accounts (r : Receiver) : Accounts :=
  match r.intake with
  | some intake => intake.accounts
  | none => .zero

def status (r : Receiver) : Except OutputFault ReceiverStatus :=
  r.settings.outputPath.map fun path =>
    ⟨r.running, r.isConnected, r.settings.endpoint.address, r.settings.topic, path, r.accounts⟩

def health (r : Receiver) : Health :=
  match r.intake with
  | some intake => .initialized r.running r.isConnected intake.accounts intake.dispatcher.writer
  | none => .notInitialized

end Receiver

end TelemetryLog
