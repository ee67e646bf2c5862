/-! What is given where a text belongs: a text, nothing, or a list that has no text in it. The list
is what an option is left with when two dashes are written as its value, if the reader of command
lines takes these out. -/

namespace TelemetryLog

/-- A text, nothing, or a list without any text. -/
inductive GivenText where
  | text (s : String)
  | nothing
  | emptyList
  deriving DecidableEq, Repr, Inhabited

namespace GivenText

def shown : GivenText → String
  | .text s => s
  | .nothing => "None"
  | .emptyList => "[]"

def nonEmpty? : GivenText → Option String
  | .text s => if s = "" then none else some s
  | .nothing | .emptyList => none

end GivenText

end TelemetryLog
