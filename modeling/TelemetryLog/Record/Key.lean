import TelemetryLog.Value
import TelemetryLog.Text.Casing

/-! Keys of records. The spellings of a key differ in their capitals, underscores and hyphens; the
folded key has none of these, and a field is the first member whose folded key is its name. -/

namespace TelemetryLog

open Text

def isKeySeparator (c : Char) : Bool := c = '_' || c = '-'

/-- The common form of the spellings of a key. -/
def foldKey (key : List Char) : List Char := small (key.filter fun c => !isKeySeparator c)

/-- Whether a key spells the name of a field. A key that is no text spells none. -/
def spells (name : String) : Scalar → Bool
  | .text key => foldKey key.toList = name.toList
  | _ => false

/-- The value of a field: that of the first member whose key spells its name. -/
def field? (name : String) (members : List (Scalar × Value)) : Option Value :=
  (members.find? fun (key, _) => spells name key).map (·.2)

end TelemetryLog
