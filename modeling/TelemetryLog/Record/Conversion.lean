import TelemetryLog.Record.Key
import TelemetryLog.Record.Violation
import TelemetryLog.Text.Numeral

/-! From values to what the fields of records hold. A text, a list and an object have to be given as
such; truth values, integers and times are also read from values that can stand for them. -/

namespace TelemetryLog

open Text

namespace Value

variable {α : Type}

def toText : Value → Checked String
  | .scalar (.text s) => .ok s
  | _ => .refuse .notText

def toList (read : Value → Checked α) : Value → Checked (List α)
  | .array items => .all (items.mapIdx fun i item => .within (.item i) (read item))
  | _ => .refuse .notList

def toMembers (form : Form) : Value → Checked (List (Scalar × Value))
  | .object members => .ok members
  | _ => .refuse (.notForm form)

def toOptional (read : Value → Checked α) : Value → Checked (Option α)
  | .scalar .null => .ok none
  | value => (read value).map some

/-- The integers that a truth value can be read from are within these bounds or are refused as no
truth value at all. -/
def isShort (i : Int) : Bool := -(twoTo 63 : Int) ≤ i && i < twoTo 63

def truthWords : List (String × Bool) :=
  [("0", false), ("off", false), ("f", false), ("false", false), ("n", false), ("no", false),
    ("1", true), ("on", true), ("t", true), ("true", true), ("y", true), ("yes", true)]

def truthOfInteger (i : Int) : Checked Bool :=
  if i = 0 then .ok false
  else if i = 1 then .ok true
  else .refuse .unreadableBool

def isShortNumber (i : Int) : Bool := i.natAbs < twoTo 63

def toBool : Value → Checked Bool
  | .scalar (.bool b) => .ok b
  | .scalar (.int i) => if isShort i then truthOfInteger i else .refuse .notBool
  | .scalar (.number x) =>
    match x.integer? with
    | some i => if isShortNumber i then truthOfInteger i else .refuse .notBool
    | none => .refuse .notBool
  | .scalar (.text s) =>
    match truthWords.lookup (String.ofList (asciiSmall s.toList)) with
    | some b => .ok b
    | none => .refuse .unreadableBool
  | _ => .refuse .notBool

def integerOfNumber (x : Binary64) : Checked Int :=
  match x, x.integer? with
  | .finite _ _ _, some i => if isShortNumber i then .ok i else .refuse .tooLarge
  | .finite _ _ _, none => .refuse .fractional
  | _, _ => .refuse .notFinite

def integerOfText (s : List Char) : Checked Int :=
  match recordedInteger s with
  | .ok i => .ok i
  | .error .malformed => .refuse .unreadableInteger
  | .error (.tooLong _) => .refuse .tooLarge

def toInteger : Value → Checked Int
  | .scalar (.bool b) => .ok (if b then 1 else 0)
  | .scalar (.int i) => .ok i
  | .scalar (.number x) => integerOfNumber x
  | .scalar (.text s) => integerOfText s.toList
  | _ => .refuse .notInteger

def timeOf : Except TimeFault Stamp → Checked Stamp
  | .ok stamp => .ok stamp
  | .error fault => .refuse (.time fault)

/-- The time of an integer, which has to be within the range of binary64. -/
def timeOfInteger (i : Int) : Checked Stamp :=
  match Binary64.ofInt i with
  | .finite _ _ _ => timeOf (Stamp.ofInteger false i)
  | _ => .refuse (.time .notTime)

def toTime : Value → Checked Stamp
  | .scalar (.int i) => timeOfInteger i
  | .scalar (.number x) => timeOf (Stamp.ofNumber x)
  | .scalar (.text s) => timeOf (Stamp.ofChars s.toList)
  | _ => .refuse (.time .notTime)

/-- Whether a value is a number. A truth value is none. -/
def isNumber : Value → Bool
  | .scalar (.int _) => true
  | .scalar (.number _) => true
  | _ => false

def toNumber : Value → Checked Binary64
  | .scalar (.int i) =>
    match Binary64.ofInt i with
    | .finite negative m q => .ok (.finite negative m q)
    | _ => .refuse .notNumber
  | .scalar (.number x) => .ok x
  | _ => .refuse .notNumber

def firstNonNumber? (items : List Value) : Option (Value × Nat) :=
  items.zipIdx.find? fun (item, _) => !item.isNumber

/-- A value that has to be a list of numbers. Before any of them is read, the first item that is no
number is refused. -/
def toNumbers : Value → Checked (List Binary64)
  | .array items =>
    match firstNonNumber? items with
    | some (item, index) => .refuse (.notNumeric index item)
    | none => toList toNumber (.array items)
  | _ => .refuse .valuesNotList

end Value

/-- A field that has to be there. -/
def requiredField {α : Type} (name : String) (read : Value → Checked α)
    (members : List (Scalar × Value)) : Checked α :=
  .within (.field name) <|
    match field? name members with
    | some value => read value
    | none => .refuse .missing

/-- A field that has a usual value when it is not there. -/
def optionalField {α : Type} (name : String) (usual : α) (read : Value → Checked α)
    (members : List (Scalar × Value)) : Checked α :=
  .within (.field name) <|
    match field? name members with
    | some value => read value
    | none => .ok usual

end TelemetryLog
