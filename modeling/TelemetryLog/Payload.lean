import TelemetryLog.Text.Utf8

/-! The payload of a message: bytes, or a text that stands for its bytes. -/

namespace TelemetryLog

open Text

inductive Payload where
  | bytes (octets : List UInt8)
  | text (s : String)
  deriving DecidableEq, Repr, Inhabited

namespace Payload

def octets : Payload → List UInt8
  | .bytes b => b
  | .text s => Utf8.encode s.toList

/-- A payload as text for a reader. Bytes that are no UTF-8 are written as their codes, so that
nothing is lost. -/
def display : Payload → String
  | .bytes b => String.ofList (Utf8.read b)
  | .text s => s

end Payload

end TelemetryLog
