import TelemetryLog.Host
import TelemetryLog.Settings

/-! The command line. Each option but the one for help has a value, which follows it or is written
after an equals sign; an option may be cut short as long as it stays clear which one is meant. What
belongs to no option is refused when all has been read. -/

namespace TelemetryLog

open Text

inductive CliOption where
  | help
  | envFile
  | outputFolder
  | outputFile
  | topic
  | logLevel
  deriving DecidableEq, Repr

/-- The values of the options that were given; of an option that comes again the last value
counts. -/
structure Arguments where
  envFile : Option GivenText
  outputFolder : Option GivenText
  outputFile : Option GivenText
  topic : Option GivenText
  logLevel : Option GivenText
  deriving DecidableEq, Repr

inductive ArgumentFault where
  | helpAsked
  | ambiguous (written : String) (candidates : List String)
  | noValue (option : CliOption)
  | needlessValue (value : String)
  | unrecognized (rest : List String)
  deriving DecidableEq, Repr

inductive ArgumentShape where
  /-- An option, and the value in the same argument. -/
  | named (option : CliOption) (value : Option String)
  /-- The option for help with one dash, and what is written in the same argument. -/
  | help (letters : List Char)
  /-- It is written as an option, but there is none like it. -/
  | noOption
  /-- Two dashes, after which no argument is an option. -/
  | dashes
  | plain
  deriving DecidableEq, Repr

namespace CliOption

def long : CliOption → String
  | .help => "--help"
  | .envFile => "--env-file"
  | .outputFolder => "--output-folder"
  | .outputFile => "--output-file"
  | .topic => "--topic"
  | .logLevel => "--log-level"

def shortHelp : String := "-h"

def all : List CliOption := [.help, .envFile, .outputFolder, .outputFile, .topic, .logLevel]

def display : CliOption → String
  | .help => shortHelp ++ "/" ++ long .help
  | option => option.long

def startingWith (s : List Char) : List CliOption :=
  all.filter fun option => s.isPrefixOf option.long.toList

end CliOption

namespace ArgumentFault

def message : ArgumentFault → String
  | .helpAsked => ""
  | .ambiguous written candidates =>
    "ambiguous option: " ++ written ++ " could match " ++ String.intercalate ", " candidates
  | .noValue option => "argument " ++ option.display ++ ": expected one argument"
  | .needlessValue value =>
    "argument " ++ CliOption.display .help ++ ": ignored explicit argument " ++
      String.ofList (quoted value.toList)
  | .unrecognized rest =>
    let words := "unrecognized arguments: " ++ String.intercalate " " rest
    String.ofList (dropEndWhile isBlank words.toList)

def exitCode : ArgumentFault → Nat
  | .helpAsked => 0
  | _ => 2

end ArgumentFault

namespace ArgumentShape

def withoutLineEnd (s : List Char) : List Char :=
  match s.reverse with
  | '\n' :: rest => rest.reverse
  | _ => s

def isNumeral (s : List Char) : Bool :=
  let isDigit (c : Char) : Bool := (decimalDigit? c).isSome
  let s := withoutLineEnd s
  match s.dropWhile isDigit with
  | [] => s ≠ []
  | '.' :: fraction => fraction ≠ [] && fraction.all isDigit
  | _ => false

/-- A text that starts with a dash and is no option: a value if it is a negative number or has a
blank. -/
def ofUnknown (rest : List Char) : ArgumentShape :=
  if isNumeral rest || rest.contains ' ' then .plain else .noOption

def splitAtEquals (s : List Char) : List Char × Option String :=
  match s.dropWhile (· ≠ '=') with
  | _ :: value => (s.takeWhile (· ≠ '='), some (String.ofList value))
  | [] => (s, none)

/-- An argument that starts with two dashes: one option, or too many that it could stand for. -/
def ofLong (s : List Char) : Except ArgumentFault ArgumentShape :=
  let (name, value) := splitAtEquals s
  match CliOption.all.find? fun option => option.long.toList = name with
  | some option => .ok (.named option value)
  | none =>
    match CliOption.startingWith name with
    | [] => .ok (ofUnknown (s.drop 1))
    | [option] => .ok (.named option value)
    | options => .error (.ambiguous (String.ofList s) (options.map CliOption.long))

/-- An argument that starts with one dash. After the option for help an equals sign says nothing. -/
def ofShort (s : List Char) : ArgumentShape :=
  match s with
  | ['-', 'h'] => .named .help none
  | '-' :: 'h' :: '=' :: letters => .help letters
  | '-' :: 'h' :: letters => .help letters
  | _ => ofUnknown (s.drop 1)

def ofArgument (s : String) : Except ArgumentFault ArgumentShape :=
  match s.toList with
  | ['-', '-'] => .ok .dashes
  | ['-'] => .ok .plain
  | '-' :: '-' :: rest => ofLong ('-' :: '-' :: rest)
  | '-' :: rest => .ok (ofShort ('-' :: rest))
  | _ => .ok .plain

/-- The arguments with their shapes. After two dashes all of them are plain. -/
def ofAll : List String → Except ArgumentFault (List (String × ArgumentShape))
  | [] => .ok []
  | s :: rest =>
    match ofArgument s with
    | .error fault => .error fault
    | .ok .dashes => .ok ((s, .dashes) :: rest.map (·, .plain))
    | .ok shape => (ofAll rest).map ((s, shape) :: ·)

end ArgumentShape

namespace Arguments

def none : Arguments := ⟨.none, .none, .none, .none, .none⟩

/-- What an option is given as its value in the same argument. Two dashes leave the empty list to a
host that takes them out there, and are a text to the others. -/
def valueOf [Host] (s : String) : GivenText :=
  if Host.dropsDashes = true ∧ s = "--" then .emptyList else .text s

def set (args : Arguments) (value : GivenText) : CliOption → Arguments
  | .help => args
  | .envFile => { args with envFile := some value }
  | .outputFolder => { args with outputFolder := some value }
  | .outputFile => { args with outputFile := some value }
  | .topic => { args with topic := some value }
  | .logLevel => { args with logLevel := some value }

/-- What is written with the short option for help may only ask for help again; from the first
other letter on it is a value, and help takes none. -/
def helpWith : List Char → ArgumentFault
  | ['h'] => .helpAsked
  | 'h' :: letters => helpWith letters
  | letters => .needlessValue (String.ofList letters)

def ofShapes [Host] (args : Arguments) (extra : List String) :
    List (String × ArgumentShape) → Except ArgumentFault (Arguments × List String)
  | [] => .ok (args, extra)
  | (_, .named .help .none) :: _ => .error .helpAsked
  | (_, .named .help (some value)) :: _ => .error (.needlessValue value)
  | (_, .help letters) :: _ => .error (helpWith letters)
  | (_, .named option (some value)) :: rest =>
    ofShapes (args.set (valueOf value) option) extra rest
  | (_, .named option .none) :: (value, .plain) :: rest =>
    ofShapes (args.set (.text value) option) extra rest
  | (_, .named option .none) :: _ => .error (.noValue option)
  | (s, _) :: rest => ofShapes args (extra ++ [s]) rest

def parse [Host] (argv : List String) : Except ArgumentFault Arguments := do
  let shapes ← ArgumentShape.ofAll argv
  let (args, extra) ← ofShapes none [] shapes
  if extra = [] then .ok args else .error (.unrecognized extra)

end Arguments

def Arguments.askedFile? (args : Arguments) : Option String := args.envFile.bind GivenText.nonEmpty?

/-- The settings as the command line changes them. An empty log level changes nothing. -/
def Settings.override (settings : Settings) (args : Arguments) : Settings :=
  { settings with
    outputFolder := args.outputFolder.getD settings.outputFolder
    outputFile := args.outputFile.getD settings.outputFile
    topic := args.topic.getD settings.topic
    logLevel :=
      match args.logLevel.bind GivenText.nonEmpty? with
      | some level => String.ofList (capitals level.toList)
      | none => settings.logLevel }

end TelemetryLog
