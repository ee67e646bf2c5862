/-! The journal of the program: entries with a level, in the order in which they are made. -/

namespace TelemetryLog

inductive Level where
  | debug
  | info
  | warning
  | error
  deriving DecidableEq, Repr

structure Entry where
  level : Level
  message : String
  deriving DecidableEq, Repr

namespace Level

def name : Level → String
  | .debug => "DEBUG"
  | .info => "INFO"
  | .warning => "WARNING"
  | .error => "ERROR"

def weight : Level → Int
  | .debug => 10
  | .info => 20
  | .warning => 30
  | .error => 40

end Level

namespace Entry

def debug (message : String) : Entry := ⟨.debug, message⟩

def info (message : String) : Entry := ⟨.info, message⟩

def warning (message : String) : Entry := ⟨.warning, message⟩

def error (message : String) : Entry := ⟨.error, message⟩

end Entry

end TelemetryLog
