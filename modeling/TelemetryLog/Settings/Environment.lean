/-! The environment of the program: variables with their values. -/

namespace TelemetryLog

abbrev Environment : Type := List (String × String)

namespace Environment

def get? (env : Environment) (name : String) : Option String := List.lookup name env

def getD (env : Environment) (name usual : String) : String := (env.get? name).getD usual

/-- The environment in which a variable is set; one that was set before keeps its value. -/
def setIfAbsent (env : Environment) (name value : String) : Environment :=
  match env.get? name with
  | some _ => env
  | none => env ++ [(name, value)]

end Environment

end TelemetryLog
