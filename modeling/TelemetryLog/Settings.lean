import TelemetryLog.Settings.EnvFile
import TelemetryLog.Settings.GivenText
import TelemetryLog.Storage.Tree
import TelemetryLog.Text.Casing
import TelemetryLog.Text.Numeral

/-! The settings of the program. They come from the environment, to which a file of variables adds
what is not set there. -/

namespace TelemetryLog

open Text

/-- The settings of the program. An environment settles all of them but the name and the password; a
caller who gives settings may give nothing for others too. -/
structure Settings where
  brokerHost : GivenText
  brokerPort : Option Int
  transport : GivenText
  wsPath : GivenText
  useTls : Option Bool
  username : Option String
  password : Option String
  topic : GivenText
  qos : Option Int
  clientId : GivenText
  outputFolder : GivenText
  outputFile : GivenText
  logLevel : String
  statsEvery : Int
  deriving DecidableEq, Repr

inductive SettingsFault where
  | notInteger (text : String)
  | tooManyDigits (count : Nat)
  | unusableFile (fault : StorageFault)
  | illegalName
  | nulInVariable
  deriving DecidableEq, Repr

/-- The greatest number of characters of a text that is quoted as no integer. -/
def greatestQuotation : Nat := 200

def SettingsFault.message : SettingsFault → String
  | .notInteger text =>
    "invalid literal for int() with base 10: " ++
      String.ofList ((quoted text.toList).take greatestQuotation)
  | .tooManyDigits count =>
    "Exceeds the limit (" ++ String.ofList (digitsOf greatestDigitCount) ++
      " digits) for integer string conversion: value has " ++ String.ofList (digitsOf count) ++
      " digits; use sys.set_int_max_str_digits() to increase the limit"
  | .unusableFile fault => fault.message
  | .illegalName => "illegal environment variable name"
  | .nulInVariable => "embedded null byte"

inductive OutputFault where
  | noFolder
  | listAsFolder
  | noFile
  | listAsFile
  deriving DecidableEq, Repr

def OutputFault.message : OutputFault → String
  | .noFolder => "expected str, bytes or os.PathLike object, not NoneType"
  | .listAsFolder => "expected str, bytes or os.PathLike object, not list"
  | .noFile => "unsupported operand type(s) for /: 'PosixPath' and 'NoneType'"
  | .listAsFile => "unsupported operand type(s) for /: 'PosixPath' and 'list'"

namespace Settings

/-- The path of the log, if a folder and a file are given for it; the folder is looked at first. -/
def outputPath (settings : Settings) : Except OutputFault Path :=
  match settings.outputFolder, settings.outputFile with
  | .nothing, _ => .error .noFolder
  | .emptyList, _ => .error .listAsFolder
  | .text _, .nothing => .error .noFile
  | .text _, .emptyList => .error .listAsFile
  | .text folder, .text file => .ok ((Path.ofText folder).join (.ofText file))

def onWords : List String := ["1", "true", "yes", "on"]

def word (s : String) : String := String.ofList (small (trimBoth isBlank s.toList))

def integer (env : Environment) (name usual : String) : Except SettingsFault Int :=
  let text := env.getD name usual
  match configuredInteger text.toList with
  | .ok i => .ok i
  | .error .malformed => .error (.notInteger text)
  | .error (.tooLong count) => .error (.tooManyDigits count)

/-- A text of the environment that may be empty or missing. -/
def nonEmpty? (env : Environment) (name : String) : Option String :=
  (env.get? name).filter (· ≠ "")

def fileVariable : String := "DATALOGGER_ENV_FILE"

def ofEnvironment (env : Environment) : Except SettingsFault Settings := do
  let brokerPort ← integer env "MQTT_BROKER_PORT" "1883"
  let qos ← integer env "MQTT_QOS" "1"
  let statsEvery ← integer env "STATS_LOG_EVERY" "100"
  .ok {
    brokerHost := .text (env.getD "MQTT_BROKER_HOST" "localhost")
    brokerPort := some brokerPort
    transport := .text (word (env.getD "MQTT_TRANSPORT" "tcp"))
    wsPath := .text (env.getD "MQTT_WS_PATH" "/mqtt")
    useTls := some (onWords.contains (word (env.getD "MQTT_USE_TLS" "false")))
    username := nonEmpty? env "MQTT_USERNAME"
    password := nonEmpty? env "MQTT_PASSWORD"
    topic := .text (env.getD "MQTT_TOPIC" "#")
    qos := some qos
    clientId := .text (env.getD "MQTT_CLIENT_ID" "datalogger-subscriber")
    outputFolder := .text (env.getD "DATALOG_OUTPUT_FOLDER" "Datalog")
    outputFile := .text (env.getD "DATALOG_OUTPUT_FILE" "datalog.csv")
    logLevel := String.ofList (capitals (env.getD "LOG_LEVEL" "INFO").toList)
    statsEvery }

def usualFile : String := ".env"

/-- The file of variables: the one that is asked for, or else the one that the environment names; an
empty name in the environment stands for no file. -/
def chosenFile? (env : Environment) (asked : Option String) : Option String :=
  match asked.filter (· ≠ "") with
  | some file => some file
  | none => some (env.getD fileVariable usualFile) |>.filter (· ≠ "")

/-- The content of a file of variables. What is not there, or is no file as its name is written,
counts as empty. -/
def contentOf (tree : Tree) (file : String) : Except SettingsFault String :=
  let path := Path.ofText file
  if path.hasNul then .ok ""
  else
    match tree.find path with
    | .ok _ => .ok ((tree.readNamed? file).getD "")
    | .error cause => .error (.unusableFile ⟨cause, path⟩)

def switchVariable : String := "PYTHON_DOTENV_DISABLED"

def offWords : List String := ["1", "TRUE", "T", "YES", "Y"]

def isFileOff (env : Environment) : Bool :=
  (env.get? switchVariable).any fun value =>
    offWords.contains (String.ofList (capitals value.toList))

def checkVariable (name value : String) : Except SettingsFault Unit :=
  if name.contains '\x00' || value.contains '\x00' then .error .nulInVariable
  else if name.contains '=' then .error .illegalName
  else .ok ()

/-- The environment with the variables of a file that are not set yet, up to the first one that
cannot be put into it. -/
def addVariables (env : Environment) : List EnvFile.Binding →
    Environment × Except SettingsFault Unit
  | [] => (env, .ok ())
  | (_, none) :: rest => addVariables env rest
  | (name, some value) :: rest =>
    if (env.get? name).isSome then addVariables env rest
    else
      match checkVariable name value with
      | .ok () => addVariables (env.setIfAbsent name value) rest
      | .error fault => (env, .error fault)

/-- The environment with the variables of the chosen file, unless such files are switched off. -/
def addFile (tree : Tree) (env : Environment) (asked : Option String) :
    Environment × Except SettingsFault Unit :=
  match chosenFile? env asked with
  | none => (env, .ok ())
  | some file =>
    match contentOf tree file with
    | .error fault => (env, .error fault)
    | .ok content =>
      if isFileOff env then (env, .ok ()) else addVariables env (EnvFile.expanded env content)

/-- The settings of the environment with the variables of the chosen file, and that environment. -/
def load (tree : Tree) (env : Environment) (asked : Option String) :
    Environment × Except SettingsFault Settings :=
  match addFile tree env asked with
  | (env, .ok ()) => (env, ofEnvironment env)
  | (env, .error fault) => (env, .error fault)

end Settings

end TelemetryLog
