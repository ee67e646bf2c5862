import TelemetryLog.Value
import TelemetryLog.Text.Split

/-! Topics, and the identity of the logger and the table that publish on a topic. A topic of one of
two shapes names them: `cs/v1/data/model/serial/table` or the same with `metadata`. Every other
topic is unknown. -/

namespace TelemetryLog

open Text

/-- The kind of the records on a topic. A label that names no kind is kept as it came. -/
inductive RecordKind where
  | data
  | metadata
  | unknown
  | unsupported (label : Scalar)
  deriving DecidableEq, Repr, Inhabited

def RecordKind.label : RecordKind → String
  | .data => "Data"
  | .metadata => "Metadata"
  | .unknown => "Unknown"
  | .unsupported label => String.ofList label.plain

structure Identity where
  model : String
  serial : String
  table : String
  kind : RecordKind
  deriving DecidableEq, Repr, Inhabited

namespace Identity

def unknownSegment : String := "Unknown"

def unknown : Identity := ⟨unknownSegment, unknownSegment, unknownSegment, .unknown⟩

def kindOfSegment? (segment : List Char) : Option RecordKind :=
  if segment = "data".toList then some .data
  else if segment = "metadata".toList then some .metadata
  else none

def ofSegments : List (List Char) → Identity
  | [c, v, k, m, s, t] =>
    match kindOfSegment? k with
    | some kind =>
      if c = "cs".toList ∧ v = "v1".toList ∧ m ≠ [] ∧ s ≠ [] ∧ t ≠ [] then
        ⟨String.ofList m, String.ofList s, String.ofList t, kind⟩
      else unknown
    | none => unknown
  | _ => unknown

def ofTopic (topic : String) : Identity := ofSegments (splitAt '/' topic.toList)

/-- The identity of whatever came as a topic: only a text is one. -/
def classify : Value → Identity
  | .scalar (.text topic) => ofTopic topic
  | _ => unknown

def isKnown (identity : Identity) : Bool := identity.kind ≠ .unknown

def text (identity : Identity) : String :=
  "[" ++ identity.kind.label ++ "] Model: " ++ identity.model ++ ", Serial: " ++
    identity.serial ++ ", Table: " ++ identity.table

end Identity

end TelemetryLog
