import TelemetryLog.Host
import TelemetryLog.Value
import TelemetryLog.Text.Split
import TelemetryLog.Time.Reading

/-! What is wrong with a value that should be a record. A violation is a complaint and the place
that it is about; a checked result is the result, or all violations in order. -/

namespace TelemetryLog

open Text

inductive Form where
  | batch
  | head
  | column
  | sample
  | metadata
  | definitions
  deriving DecidableEq, Repr

def Form.name : Form → String
  | .batch => "DataBatch"
  | .head => "DataHead"
  | .column => "FieldDef"
  | .sample => "Sample"
  | .metadata => "MetadataSet"
  | .definitions => "MetadataFields"

/-- A step from a value to a part of it, or to the key of a member. -/
inductive Step where
  | field (name : String)
  | item (index : Nat)
  | member (key : Scalar)
  | keyItself
  deriving DecidableEq, Repr

/-- A step as it is written in a place. A truth value is written as one or zero. -/
def Step.chars : Step → List Char
  | .field name => name.toList
  | .item index => digitsOf index
  | .member (.bool b) => if b then ['1'] else ['0']
  | .member key => key.plain
  | .keyItself => "[key]".toList

inductive Complaint where
  | missing
  | notForm (form : Form)
  | notList
  | notObject
  | notText
  | notNumber
  | notBool
  | unreadableBool
  | notInteger
  | unreadableInteger
  | notFinite
  | fractional
  | tooLarge
  | time (fault : TimeFault)
  | valuesNotList
  | notNumeric (index : Nat) (value : Value)
  | noSamples
  deriving DecidableEq, Repr

def Complaint.chars : Complaint → List Char
  | .missing => "Field required".toList
  | .notForm form =>
    "Input should be a valid dictionary or instance of ".toList ++ form.name.toList
  | .notList => "Input should be a valid list".toList
  | .notObject => "Input should be a valid dictionary".toList
  | .notText => "Input should be a valid string".toList
  | .notNumber => "Input should be a valid number".toList
  | .notBool => "Input should be a valid boolean".toList
  | .unreadableBool => "Input should be a valid boolean, unable to interpret input".toList
  | .notInteger => "Input should be a valid integer".toList
  | .unreadableInteger =>
    "Input should be a valid integer, unable to parse string as an integer".toList
  | .notFinite => "Input should be a finite number".toList
  | .fractional =>
    "Input should be a valid integer, got a number with a fractional part".toList
  | .tooLarge => "Unable to parse input string as an integer, exceeded maximum size".toList
  | .time fault => fault.message.toList
  | .valuesNotList => "Value error, vals must be a list".toList
  | .notNumeric index value =>
    "Value error, vals[".toList ++ digitsOf index ++ "] is not numeric: ".toList ++ value.literal
  | .noSamples => "Value error, data contains no samples".toList

def Complaint.isTooDeep [Host] : Complaint → Bool
  | .notNumeric _ value => value.isTooDeep Host.complaintDepth
  | _ => false

structure Violation where
  place : List Step
  complaint : Complaint
  deriving DecidableEq, Repr

namespace Violation

def placeChars (place : List Step) : List Char :=
  match joinWith ['.'] (place.map Step.chars) with
  | [] => "<root>".toList
  | chars => chars

def chars (v : Violation) : List Char :=
  placeChars v.place ++ ':' :: ' ' :: v.complaint.chars

def listChars (vs : List Violation) : List Char := joinWith [';', ' '] (vs.map chars)

end Violation

/-- A result, or all that is wrong. -/
abbrev Checked (α : Type) : Type := Except (List Violation) α

namespace Checked

variable {α β : Type}

def refuse (complaint : Complaint) : Checked α := .error [⟨[], complaint⟩]

/-- A result for a part of a value, as a result for the value. -/
def within (step : Step) : Checked α → Checked α
  | .ok a => .ok a
  | .error vs => .error (vs.map fun v => ⟨step :: v.place, v.complaint⟩)

/-- Two results, or what is wrong with either. -/
def both : Checked α → Checked β → Checked (α × β)
  | .ok a, .ok b => .ok (a, b)
  | .ok _, .error ws => .error ws
  | .error vs, .ok _ => .error vs
  | .error vs, .error ws => .error (vs ++ ws)

def all : List (Checked α) → Checked (List α)
  | [] => .ok []
  | first :: rest => (both first (all rest)).map fun (a, as) => a :: as

end Checked

end TelemetryLog
