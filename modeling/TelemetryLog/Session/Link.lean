import TelemetryLog.Session.Broker
import TelemetryLog.Session.Trace
import TelemetryLog.Text.Digit

/-! The link to a broker. It is up from the moment the broker accepts the client until the link is
dropped or taken down; whenever it comes up, the topic is subscribed to. The messages that arrive go
to the handler, if there is one. -/

namespace TelemetryLog

open Text

structure Endpoint where
  host : GivenText
  portNumber : Option Int
  username : Option String
  password : Option String
  clientId : GivenText
  topic : GivenText
  qos : Option Int
  transport : GivenText
  wsPath : GivenText
  useTls : Option Bool
  deriving DecidableEq, Repr

/-- A link to a broker, with the name of its client. A handler is named by a value of `η`. -/
structure Link (η : Type) where
  endpoint : Endpoint
  clientName : String
  hasClient : Bool
  connected : Bool
  handler : Option η
  deriving DecidableEq, Repr

structure Linked (η : Type) where
  link : Link η
  trace : Trace
  deriving DecidableEq, Repr

structure Attempt (η : Type) extends Linked η where
  success : Bool
  deriving DecidableEq, Repr

namespace Endpoint

def address (e : Endpoint) : String :=
  e.host.shown ++ ":" ++
    match e.portNumber with
    | some portNumber => String.ofList (integerText portNumber)
    | none => "None"

def webSockets : String := "websockets"

/-- The name and password, if neither is empty. -/
def credentials? (e : Endpoint) : Option (String × String) :=
  match e.username.filter (· ≠ ""), e.password.filter (· ≠ "") with
  | some username, some password => some (username, password)
  | _, _ => none

def preparingCalls (e : Endpoint) : List Call :=
  (if e.transport = .text webSockets then [.setWebSocketPath e.wsPath] else []) ++
    (if e.useTls = some true then [.useTls] else []) ++
    (match e.credentials? with
    | some (username, password) => [.setCredentials username password]
    | none => [])

def keepAlive : Nat := 60

def connectCall (e : Endpoint) (portNumber : Int) : Call := .connect e.host portNumber keepAlive

def tlsShown (e : Endpoint) : String :=
  match e.useTls with
  | some true => "True"
  | some false => "False"
  | none => "None"

def connectingEntry (e : Endpoint) : Entry :=
  .info ("[MQTT] Connecting to " ++ e.address ++ " (transport=" ++ e.transport.shown ++ " tls=" ++
    e.tlsShown ++ ")")

end Endpoint

namespace Link

variable {η : Type}

/-- A link that has not been used, made at a time in seconds, which becomes a part of the client's
name. -/
def new (endpoint : Endpoint) (seconds : Int) : Link η :=
  ⟨endpoint, endpoint.clientId.shown ++ "-" ++ String.ofList (integerText seconds), false, false,
    none⟩

def createCall (link : Link η) : Call := .create link.clientName link.endpoint.transport

def handledBy (handler : Option η) (link : Link η) : Link η := { link with handler }

/-- The broker has answered: the link is up if the client is accepted, and the topic is subscribed
to. -/
def acknowledge (link : Link η) (code : Int) : Linked η :=
  if code = Broker.accepted then
    ⟨{ link with connected := true },
      [.subscribe link.endpoint.topic link.endpoint.qos],
      [.info "[MQTT] Connected to broker",
        .info ("[MQTT] Subscribed to '" ++ link.endpoint.topic.shown ++ "'")]⟩
  else
    ⟨{ link with connected := false }, .ofEntry
      (.error ("[MQTT] Connection failed: rc=" ++ String.ofList (integerText code)))⟩

def drop (link : Link η) (code : Int) : Linked η :=
  ⟨{ link with connected := false }, .ofEntry
    (.warning ("[MQTT] Disconnected (rc=" ++ String.ofList (integerText code) ++ ")"))⟩

/-- The link after so many pauses since it was about to connect. -/
def hear (broker : Broker) (pauses : Nat) (link : Link η) : Linked η :=
  match broker.answerAfter? pauses with
  | some code => link.acknowledge code
  | none => ⟨link, .empty⟩

/-- The greatest number of pauses in which the link waits for an answer. -/
def patience : Nat := 51

/-- Waits until the link is up, for so many pauses at most after those before. -/
def wait (broker : Broker) (pauses : Nat) (link : Link η) : Nat → Attempt η
  | 0 => ⟨⟨link, .ofEntry (.error "[MQTT] Connection timeout")⟩, false⟩
  | left + 1 =>
    if link.connected then ⟨⟨link, .empty⟩, true⟩
    else
      let heard := link.hear broker (pauses + 1)
      let rest := heard.link.wait broker (pauses + 1) left
      { rest with trace := heard.trace ++ rest.trace }

def failureEntry (reason : String) : Entry := .error ("[MQTT] Connection failed: " ++ reason)

def attach (broker : Broker) (portNumber : Int) (link : Link η) : Attempt η :=
  let calls : Trace := ⟨[link.endpoint.connectCall portNumber], [link.endpoint.connectingEntry]⟩
  match broker.connectFault with
  | some reason => ⟨⟨link, calls ++ .ofEntry (failureEntry reason)⟩, false⟩
  | none =>
    let heard := link.hear broker 0
    let rest := heard.link.wait broker 0 patience
    { rest with trace := calls ++ heard.trace ++ .ofCalls [.startLoop] ++ rest.trace }

def noNumberReason : String := "%d format: a real number is required, not NoneType"

def attachToHost (broker : Broker) (link : Link η) : Attempt η :=
  match link.endpoint.portNumber with
  | some portNumber => link.attach broker portNumber
  | none => ⟨⟨link, .ofEntry (failureEntry noNumberReason)⟩, false⟩

def connect (broker : Broker) (link : Link η) : Attempt η :=
  let creating := Trace.ofCalls [link.createCall]
  match broker.createFault with
  | some reason => ⟨⟨link, creating ++ .ofEntry (failureEntry reason)⟩, false⟩
  | none =>
    let attached := { link with hasClient := true }.attachToHost broker
    { attached with
      trace := creating ++ .ofCalls link.endpoint.preparingCalls ++ attached.trace }

/-- The calls that create a client and make it ready, of which the link takes no note. -/
def create (broker : Broker) (link : Link η) : List Call × Except String Unit :=
  match broker.createFault with
  | some reason => ([link.createCall], .error reason)
  | none => (link.createCall :: link.endpoint.preparingCalls, .ok ())

def disconnect (broker : Broker) (link : Link η) : Linked η :=
  let trace : Trace :=
    if link.hasClient then
      match broker.disconnectFault with
      | some reason => ⟨[.disconnect], [.warning ("[MQTT] Disconnect error: " ++ reason)]⟩
      | none => .ofCalls [.disconnect, .stopLoop]
    else .empty
  ⟨{ link with connected := false }, trace⟩

end Link

end TelemetryLog
