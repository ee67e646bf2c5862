import TelemetryLog.Run

/-! The command line, away from the network. The broker accepts every client; the messages are the
lines of the standard input, each with a topic, a tab and a payload. The file of variables and the
log are those on the disk, and the journal goes to the standard error. -/

namespace TelemetryLog.CommandLine

variable [Host]

def variableNames : List String :=
  ["TZ", Settings.fileVariable, Settings.switchVariable, "MQTT_BROKER_HOST", "MQTT_BROKER_PORT",
    "MQTT_TRANSPORT", "MQTT_WS_PATH", "MQTT_USE_TLS", "MQTT_USERNAME", "MQTT_PASSWORD",
    "MQTT_TOPIC", "MQTT_QOS", "MQTT_CLIENT_ID", "DATALOG_OUTPUT_FOLDER", "DATALOG_OUTPUT_FILE",
    "LOG_LEVEL", "STATS_LOG_EVERY"]

def readEnvironment : IO Environment :=
  variableNames.filterMapM fun name => do
    let value ← IO.getEnv name
    return value.map (name, ·)

/-- The tree with a file as it is on the disk, if it is there and can be read. -/
def readInto (tree : Tree) (file : String) : IO Tree := do
  try
    return tree.putFile (.ofText file) (← IO.FS.readFile file)
  catch _ =>
    return tree

def writeBack (before after : Tree) (path : Path) : IO Unit := do
  let content := after.readFile? path
  if content ≠ before.readFile? path then
    IO.FS.createDirAll path.parent.text
    IO.FS.writeFile path.text (content.getD "")

def messageOf (line : String) : Message :=
  let (topic, rest) := line.toList.span (· ≠ '\t')
  ⟨.text (String.ofList topic), some (.bytes (Text.Utf8.encode (rest.drop 1)))⟩

partial def readLines (input : IO.FS.Stream) : IO (List String) := do
  let line ← input.getLine
  if line.isEmpty then return []
  return String.ofList (line.toList.filter (· ≠ '\n')) :: (← readLines input)

def logPath? (run : Run) : Option Path :=
  match run.settings with
  | .ok settings => settings.outputPath.toOption
  | .error _ => none

def refusal : RunFault → String × Nat
  | .arguments fault => (fault.message, fault.exitCode)
  | .settings fault => (fault.message, 1)
  | .threshold fault => (fault.message, 1)
  | .output fault => (fault.message, 1)

def conclude (run : Run) : IO Nat := do
  match run.finish with
  | .ok finish =>
    for entry in finish.trace.journal do
      IO.eprintln (entry.level.name ++ " - " ++ entry.message)
    if let some path := logPath? run then writeBack run.tree finish.tree path
    return finish.exitCode
  | .error fault =>
    let (message, code) := refusal fault
    if message ≠ "" then IO.eprintln ("error: " ++ message)
    return code

def execute (arguments : List String) : IO Nat := do
  let environment ← readEnvironment
  let asked := match Arguments.parse arguments with
    | .ok given => given.askedFile?
    | .error _ => none
  let tree ← match Settings.chosenFile? environment asked with
    | some file => readInto .empty file
    | none => pure .empty
  let zone := Zone.ofText (environment.getD "TZ" "UTC0")
  let messages := (← readLines (← IO.getStdin)).map messageOf
  let seconds := (← IO.monoMsNow) / 1000
  let run : Run :=
    ⟨arguments, environment, tree, zone, seconds, .welcoming, messages, .keyPressed⟩
  match logPath? run with
  | some path => conclude { run with tree := ← readInto run.tree path.text }
  | none => conclude run

end TelemetryLog.CommandLine

def main (arguments : List String) : IO UInt32 := do
  return (← @TelemetryLog.CommandLine.execute .usual arguments).toUInt32
