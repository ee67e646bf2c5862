import TelemetryLog.Journal
import TelemetryLog.Storage.Tree
import TelemetryLog.Table.Row

/-! The log of a table: a file that rows are appended to. The directory and the header are made with
the first row. A writer counts the rows that it wrote and the attempts that failed. -/

namespace TelemetryLog

open Text

structure LogWriter where
  defaultPath : Path
  rowsWritten : Nat
  writeErrors : Nat
  deriving DecidableEq, Repr

inductive AppendFault where
  /-- The storage refuses; this is counted. -/
  | storage (fault : StorageFault) (path : Path)
  /-- The path has a character that no stored name can have; this is not counted. -/
  | nulInPath
  /-- The directory of the path lies too deep to be made; this is not counted. -/
  | tooDeep
  deriving DecidableEq, Repr

def AppendFault.message : AppendFault → String
  | .storage fault path => "CSV Write Error: " ++ fault.message ++ " (path=" ++ path.text ++ ")"
  | .nulInPath => "embedded null byte"
  | .tooDeep => deepDirectoryMessage

structure Appended where
  tree : Tree
  writer : LogWriter
  journal : List Entry
  result : Except AppendFault Unit

namespace LogWriter

def usualPath : Path := ⟨.here, ["Datalog", "datalog.csv"]⟩

def new (defaultPath : Path) : LogWriter := ⟨defaultPath, 0, 0⟩

/-- The writer after a row that the storage refuses. -/
def failed (writer : LogWriter) : LogWriter :=
  { writer with writeErrors := writer.writeErrors + 1 }

def wrote (writer : LogWriter) : LogWriter :=
  { writer with rowsWritten := writer.rowsWritten + 1 }

/-- The text that is appended for a row: a new file starts with the header. -/
def textFor (isNew : Bool) (names : List String) (row : Row) : String :=
  String.ofList ((if isNew then Row.header names ++ ['\n'] else []) ++ row.line names ++ ['\n'])

def creating (path : Path) : Entry := .info ("[CSV] Creating " ++ path.text)

def appended (path : Path) (row : Row) : Entry :=
  .debug ("[CSV] Appended record_no=" ++ String.ofList (integerText row.recordNumber) ++ " to " ++
    path.text)

/-- Appends a row once the directory is there, to a new file or to one that is there. -/
def appendTo (writer : LogWriter) (tree : Tree) (isNew : Bool) (path : Path)
    (names : List String) (row : Row) : Appended :=
  let journal := if isNew then [creating path] else []
  if path.hasNul then ⟨tree, writer, journal, .error .nulInPath⟩
  else
    match tree.appendText path (textFor isNew names row) with
    | .error cause => ⟨tree, writer.failed, journal, .error (.storage ⟨cause, path⟩ path)⟩
    | .ok tree => ⟨tree, writer.wrote, journal ++ [appended path row], .ok ()⟩

/-- Appends a row to the log at a path. Whether the file is new is looked at after its directory has
been made; a path with a character that no name can have leads to nothing. -/
def append [Host] (writer : LogWriter) (tree : Tree) (path : Path) (names : List String)
    (row : Row) : Appended :=
  if path.parent.hasNul then ⟨tree, writer, [], .error .nulInPath⟩
  else
    match tree.ensureDirectory path.parent with
    | (tree, .error (.storage fault)) => ⟨tree, writer.failed, [], .error (.storage fault path)⟩
    | (tree, .error .tooDeep) => ⟨tree, writer, [], .error .tooDeep⟩
    | (tree, .ok ()) =>
      if path.hasNul then writer.appendTo tree true path names row
      else
        match tree.find path with
        | .error cause => ⟨tree, writer.failed, [], .error (.storage ⟨cause, path⟩ path)⟩
        | .ok node => writer.appendTo tree node.isNone path names row

end LogWriter

end TelemetryLog
