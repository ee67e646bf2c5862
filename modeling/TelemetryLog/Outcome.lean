import TelemetryLog.Table.Row
import TelemetryLog.Topic

/-! What becomes of a message. Each message that is dispatched has exactly one outcome. -/

namespace TelemetryLog

inductive Outcome where
  /-- The topic is of no known shape; the payload is not read. -/
  | unclassified (topic : Value) (rawPayload : String)
  /-- A data record was read; unless there is a write error, its row is in the log. -/
  | dataHandled (identity : Identity) (names : List String) (row : Row)
      (tablePath : Option String) (writeError : Option String)
  /-- A metadata record was read. -/
  | metadataHandled (identity : Identity) (definitions : List (Scalar × Value))
      (keys : List String)
  /-- The payload is no record of the kind that the topic announces. -/
  | decodeFailed (identity : Identity) (cause rawPayload : String)
  deriving Repr

end TelemetryLog
