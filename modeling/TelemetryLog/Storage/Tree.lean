import TelemetryLog.Host
import TelemetryLog.Storage.Node
import TelemetryLog.Storage.Path
import TelemetryLog.Text.Digit

/-! A tree of directories and files with a working directory. A path is followed part by part from
the working directory or from the root. What fails says why, and at which path. -/

namespace TelemetryLog

open Text

inductive StorageCause where
  | missing
  | exists
  | notDirectory
  | isDirectory
  | nameTooLong
  deriving DecidableEq, Repr

def StorageCause.number : StorageCause → Nat
  | .missing => 2
  | .exists => 17
  | .notDirectory => 20
  | .isDirectory => 21
  | .nameTooLong => 36

def StorageCause.words : StorageCause → String
  | .missing => "No such file or directory"
  | .exists => "File exists"
  | .notDirectory => "Not a directory"
  | .isDirectory => "Is a directory"
  | .nameTooLong => "File name too long"

structure StorageFault where
  cause : StorageCause
  path : Path
  deriving DecidableEq, Repr

def StorageFault.message (fault : StorageFault) : String :=
  "[Errno " ++ String.ofList (digitsOf fault.cause.number) ++ "] " ++ fault.cause.words ++ ": " ++
    fault.path.literal

inductive DirectoryFault where
  | storage (fault : StorageFault)
  | tooDeep
  deriving DecidableEq, Repr

/-- A tree, and the location of its working directory. -/
structure Tree where
  base : Location
  root : Node
  deriving Repr

namespace Tree

def empty : Tree := ⟨["work"], .directory [("work", .emptyDirectory)]⟩

def node? (tree : Tree) (here : Location) : Option Node := tree.root.at? here

def content? (tree : Tree) (here : Location) : Option String := (tree.node? here).bind Node.content?

def set (tree : Tree) (here : Location) (node : Node) : Tree :=
  { tree with root := tree.root.put node here }

def greatestName : Nat := 255

/-- The number of bytes that a path may not reach. -/
def pathLimit : Nat := 4096

/-- The location that names lead to from a node, to which names lead through the nodes above it. Two
points lead back, and every other name leads down. Only in a directory can a step be made; whether
there is something after the last step is left open. -/
def walk (above : List (String × Node)) (here : Option Node) :
    List String → Except StorageCause Location
  | [] => .ok (above.map Prod.fst).reverse
  | name :: rest =>
    match here with
    | none => .error .missing
    | some (.file _) => .error .notDirectory
    | some (.directory entries) =>
      if name = ".." then
        match above with
        | [] => walk [] here rest
        | (_, parent) :: above => walk above (some parent) rest
      else if greatestName < (Utf8.encode name.toList).length then .error .nameTooLong
      else walk ((name, .directory entries) :: above) (entries.lookup name) rest

def locate (tree : Tree) (path : Path) : Except StorageCause Location :=
  if pathLimit ≤ path.byteLength then .error .nameTooLong
  else
    let base := if path.start = .here then tree.base else []
    walk [] (some tree.root) (base ++ path.parts)

/-- What a path leads to: a missing part or a file on the way mean that there is nothing. -/
def find (tree : Tree) (path : Path) : Except StorageCause (Option Node) :=
  match tree.locate path with
  | .ok here => .ok (tree.node? here)
  | .error .nameTooLong => .error .nameTooLong
  | .error _ => .ok none

/-- The tree with one more directory, whose parent has to be there. -/
def addDirectory (tree : Tree) (path : Path) : Except StorageCause Tree :=
  match tree.locate path with
  | .error cause => .error cause
  | .ok here =>
    match tree.node? here with
    | some _ => .error .exists
    | none => .ok (tree.set here .emptyDirectory)

/-- A directory that cannot be made is no failure when it is there already. -/
def acceptDirectory (tree : Tree) (path : Path) (cause : StorageCause) :
    Tree × Except DirectoryFault Unit :=
  match tree.find path with
  | .ok (some (.directory _)) => (tree, .ok ())
  | _ => (tree, .error (.storage ⟨cause, path⟩))

def ensureLast (tree : Tree) (path : Path) : Tree × Except DirectoryFault Unit :=
  match tree.addDirectory path with
  | .ok tree => (tree, .ok ())
  | .error .missing => (tree, .error (.storage ⟨.missing, path⟩))
  | .error cause => tree.acceptDirectory path cause

/-- The tree with the directory of a path, given by its start and by its parts from the last to the
first, and with all directories on the way, of which no more than `levels` may have to be made. What
was made before a failure stays. -/
def ensureReversed (tree : Tree) (start : PathRoot) (levels : Nat) :
    List String → Tree × Except DirectoryFault Unit
  | [] => tree.ensureLast ⟨start, []⟩
  | name :: above =>
    let path : Path := ⟨start, (name :: above).reverse⟩
    if levels = 0 then (tree, .error .tooDeep)
    else
      match tree.addDirectory path with
      | .ok tree => (tree, .ok ())
      | .error .missing =>
        match tree.ensureReversed start (levels - 1) above with
        | (tree, .ok ()) => tree.ensureLast path
        | (tree, .error fault) => (tree, .error fault)
      | .error cause => tree.acceptDirectory path cause

def ensureDirectory [Host] (tree : Tree) (path : Path) : Tree × Except DirectoryFault Unit :=
  tree.ensureReversed path.start Host.directoryDepth path.parts.reverse

/-- The tree with a text at the end of the file of a path; the file is made if it is not there. -/
def appendText (tree : Tree) (path : Path) (text : String) : Except StorageCause Tree :=
  match tree.locate path with
  | .error cause => .error cause
  | .ok here =>
    match tree.node? here with
    | some (.directory _) => .error .isDirectory
    | some (.file content) => .ok (tree.set here (.file (content ++ text)))
    | none => .ok (tree.set here (.file text))

def readFile? (tree : Tree) (path : Path) : Option String :=
  match tree.locate path with
  | .ok here => tree.content? here
  | .error _ => none

/-- The content of the file that a text leads to, followed as it is written. A text that is too
long leads nowhere, however short its path is. -/
def readNamed? (tree : Tree) (text : String) : Option String :=
  if pathLimit ≤ text.utf8ByteSize || !Path.endsWithPart text then none
  else tree.readFile? (.ofText text)

/-! What others do to the tree. -/

def putFile [Host] (tree : Tree) (path : Path) (content : String) : Tree :=
  let tree := (tree.ensureDirectory path.parent).1
  match tree.locate path with
  | .ok here =>
    match tree.node? here with
    | some (.directory _) => tree
    | _ => tree.set here (.file content)
  | .error _ => tree

end Tree

end TelemetryLog
