import TelemetryLog.Payload

/-! What the program runs on, as far as its answers hang on it. Values that are put to words, and
directories that are made with all those around them, must not lie too deep in each other: what goes
deeper is given up as a whole. How deep is too deep hangs on the calls under way at that place, so
there is a limit for each. A text that is no JSON is refused in the words of the reader that looked
at it. And the readers of command lines differ in what two dashes are as the value of an option. -/

namespace TelemetryLog

class Host where
  /-- The levels of a value that a complaint can put to words. -/
  complaintDepth : Nat
  /-- The levels of a value that a line of a report can put to words. -/
  reportDepth : Nat
  /-- The directories that can be made at once. -/
  directoryDepth : Nat
  /-- What the reader of JSON says about a payload that is none. -/
  jsonComplaint : Payload → String
  /-- Whether two dashes are taken out where they are written as the value in the argument of an
  option. Some readers of command lines do so, and some keep them as a text like any other. -/
  dropsDashes : Bool

/-- A host of the usual limits, whose reader of JSON has stopped at the first character, and whose
reader of command lines takes dashes out of options. -/
@[reducible] def Host.usual : Host where
  complaintDepth := 980
  reportDepth := 980
  directoryDepth := 980
  jsonComplaint _ := "unexpected character: line 1 column 1 (char 0)"
  dropsDashes := true

def deepValueMessage : String :=
  "maximum recursion depth exceeded while getting the repr of an object"

def deepDirectoryMessage : String :=
  "maximum recursion depth exceeded while calling a Python object"

end TelemetryLog
