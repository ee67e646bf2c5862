import TelemetryLog.Json.Reader
import TelemetryLog.Payload
import TelemetryLog.Topic
import TelemetryLog.Record.Batch
import TelemetryLog.Record.Metadata
import TelemetryLog.Time.Local

/-! From payloads to records. A payload is a JSON text of an object, and the object describes a
record of the kind that the topic announces; all is decoded, or the payload is refused. -/

namespace TelemetryLog

open Text

inductive DecodeCause where
  /-- The payload is no JSON, for the reason that its reader has given. -/
  | invalidJson (reason : String)
  | notObject (value : Value)
  | violations (vs : List Violation)
  | noLocalTime (fault : LocalFault)
  deriving Repr

structure DecodeFault where
  kind : RecordKind
  cause : DecodeCause
  payload : Payload
  deriving Repr

/-- Why a payload gives no record: it is refused, or what is wrong with it cannot be told, because a
value in it is nested too deep. -/
inductive PayloadFault where
  | refused (fault : DecodeFault)
  | tooDeep
  deriving Repr

def Value.sortName : Value → String
  | .scalar s => s.sortName
  | .array _ => "list"
  | .object _ => "dict"

def DecodeCause.message : DecodeCause → String
  | .invalidJson reason => "Invalid JSON: " ++ reason
  | .notObject value => "Expected a JSON object, got " ++ value.sortName
  | .violations vs => String.ofList (Violation.listChars vs)
  | .noLocalTime fault => "data.0.time: " ++ fault.message

def DecodeFault.message (fault : DecodeFault) : String :=
  "JSON Parse Error (" ++ fault.kind.label ++ "): " ++ fault.cause.message

def PayloadFault.message : PayloadFault → String
  | .refused fault => fault.message
  | .tooDeep => deepValueMessage

variable [Host]

/-- The record of a kind in a payload, whose object is read by `read`. -/
def decodeWith {α : Type} (kind : RecordKind) (read : Value → Checked α) (payload : Payload) :
    Except PayloadFault α :=
  let refuse (cause : DecodeCause) : Except PayloadFault α :=
    .error (.refused ⟨kind, cause, payload⟩)
  match Json.ofBytes? payload.octets with
  | none => refuse (.invalidJson (Host.jsonComplaint payload))
  | some (.object members) =>
    match read (.object members) with
    | .ok a => .ok a
    | .error vs =>
      if vs.any (·.complaint.isTooDeep) then .error .tooDeep else refuse (.violations vs)
  | some value => refuse (.notObject value)

def Batch.ofPayload (payload : Payload) : Except PayloadFault Batch :=
  decodeWith .data Batch.ofValue payload

def Metadata.ofPayload (payload : Payload) : Except PayloadFault Metadata :=
  decodeWith .metadata Metadata.ofValue payload

inductive Record where
  | data (batch : Batch)
  | metadata (metadata : Metadata)
  deriving Repr

inductive DecodeError where
  | noRecords (kind : RecordKind)
  | missingPayload
  | unread (fault : PayloadFault)
  deriving Repr

def RecordKind.literal : RecordKind → String
  | .unsupported label => String.ofList label.literal
  | .data => "<RecordKind.DATA: 'Data'>"
  | .metadata => "<RecordKind.METADATA: 'Metadata'>"
  | .unknown => "<RecordKind.UNKNOWN: 'Unknown'>"

def missingPayloadMessage : String := "cannot convert 'NoneType' object to bytes"

def DecodeError.message : DecodeError → String
  | .noRecords kind => "Cannot decode payload for record kind " ++ kind.literal
  | .missingPayload => missingPayloadMessage
  | .unread fault => fault.message

namespace Record

def ofPayload (read : Payload → Except PayloadFault Record) :
    Option Payload → Except DecodeError Record
  | none => .error .missingPayload
  | some payload => (read payload).mapError .unread

/-- The record of a kind in a payload; the kind is looked at before the payload. -/
def decode (kind : RecordKind) (payload : Option Payload) : Except DecodeError Record :=
  match kind with
  | .data => ofPayload (fun p => (Batch.ofPayload p).map .data) payload
  | .metadata => ofPayload (fun p => (Metadata.ofPayload p).map .metadata) payload
  | kind => .error (.noRecords kind)

end Record

end TelemetryLog
