import TelemetryLog.Counter
import TelemetryLog.Outcome
import TelemetryLog.Record.Decoding
import TelemetryLog.Table.Log

/-! The dispatch of a message by the kind of its topic. A data message takes the next record number,
whether or not its payload can be read; its first sample becomes a row of the log. A metadata
message is read and nothing is stored. -/

namespace TelemetryLog

open Text

structure Dispatcher where
  writer : LogWriter
  tablePath : Path
  counter : RecordCounter
  deriving DecidableEq, Repr

inductive DispatchFault where
  | noHandler (kind : RecordKind)
  | missingPayload
  | nulInPath
  | deepDirectory
  | deepValue
  deriving DecidableEq, Repr

def DispatchFault.message : DispatchFault → String
  | .noHandler kind => "Unhandled record kind: " ++ kind.literal
  | .missingPayload => missingPayloadMessage
  | .nulInPath => AppendFault.nulInPath.message
  | .deepDirectory => AppendFault.tooDeep.message
  | .deepValue => PayloadFault.tooDeep.message

structure Dispatched where
  tree : Tree
  dispatcher : Dispatcher
  journal : List Entry
  result : Except DispatchFault Outcome

namespace Dispatcher

/-- A dispatcher that writes to a path; an empty one stands for the writer's. -/
def new (writer : LogWriter) (counter : RecordCounter) (tablePath : String) : Dispatcher :=
  ⟨writer, if tablePath = "" then writer.defaultPath else .ofText tablePath, counter⟩

def count (d : Dispatcher) : Dispatcher := { d with counter := d.counter.increment }

def refusal (identity : Identity) (fault : DecodeFault) : Outcome :=
  .decodeFailed identity fault.message fault.payload.display

variable [Host]

def writeRow (d : Dispatcher) (tree : Tree) (identity : Identity) (names : List String)
    (row : Row) : Dispatched :=
  let done := d.writer.append tree d.tablePath names row
  let d := { d with writer := done.writer }
  let outcome (writeError : Option String) : Outcome :=
    .dataHandled identity names row (some d.tablePath.text) writeError
  match done.result with
  | .ok () => ⟨done.tree, d, done.journal, .ok (outcome none)⟩
  | .error .nulInPath => ⟨done.tree, d, done.journal, .error .nulInPath⟩
  | .error .tooDeep => ⟨done.tree, d, done.journal, .error .deepDirectory⟩
  | .error fault =>
    ⟨done.tree, d, done.journal ++ [.debug ("[DISPATCH] " ++ fault.message)],
      .ok (outcome (some fault.message))⟩

/-- Reads a data record and writes its row; the record number has been taken. -/
def readData (zone : Zone) (d : Dispatcher) (tree : Tree) (identity : Identity)
    (payload : Payload) : Dispatched :=
  match Batch.ofPayload payload with
  | .error .tooDeep => ⟨tree, d, [], .error .deepValue⟩
  | .error (.refused fault) =>
    ⟨tree, d, [.debug ("[DISPATCH] Data decode failed record_no=" ++ d.counter.digits ++ ": " ++
      fault.cause.message)], .ok (refusal identity fault)⟩
  | .ok batch =>
    match Row.ofBatch zone batch d.counter.value with
    | .error fault =>
      ⟨tree, d, [.debug ("[DISPATCH] Data timestamp out of range record_no=" ++ d.counter.digits ++
        ": " ++ fault.message)], .ok (refusal identity ⟨.data, .noLocalTime fault, payload⟩)⟩
    | .ok (names, row) => d.writeRow tree identity names row

def readMetadata (identity : Identity) (payload : Payload) : Except DispatchFault Outcome :=
  match Metadata.ofPayload payload with
  | .error .tooDeep => .error .deepValue
  | .error (.refused fault) => .ok (refusal identity fault)
  | .ok metadata =>
    .ok (.metadataHandled identity
      (metadata.firstDefinitions.map fun (name, first) => (.text name, first)) metadata.keys)

/-- Dispatches a message. Without a payload it has no outcome, but a data message has taken its
number by then. -/
def dispatch (zone : Zone) (d : Dispatcher) (tree : Tree) (identity : Identity) (topic : Value)
    (payload : Option Payload) : Dispatched :=
  match identity.kind, payload with
  | .unsupported label, _ => ⟨tree, d, [], .error (.noHandler (.unsupported label))⟩
  | .data, none => ⟨tree, d.count, [], .error .missingPayload⟩
  | .data, some payload => d.count.readData zone tree identity payload
  | _, none => ⟨tree, d, [], .error .missingPayload⟩
  | .metadata, some payload => ⟨tree, d, [], readMetadata identity payload⟩
  | .unknown, some payload => ⟨tree, d, [], .ok (.unclassified topic payload.display)⟩

end Dispatcher

end TelemetryLog
