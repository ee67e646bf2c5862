/-! What stands in a tree: files with their content, and directories with named entries. A location
below a node is given by the names that lead there. -/

namespace TelemetryLog

/-- The names from a node to one below it. -/
abbrev Location : Type := List String

inductive Node where
  | file (content : String)
  | directory (entries : List (String × Node))
  deriving Repr, Inhabited

namespace Node

def emptyDirectory : Node := .directory []

def content? : Node → Option String
  | .file content => some content
  | .directory _ => none

def entry? (name : String) : Node → Option Node
  | .file _ => none
  | .directory entries => entries.lookup name

def at? (node : Node) : Location → Option Node
  | [] => some node
  | name :: rest =>
    match node.entry? name with
    | some below => below.at? rest
    | none => none

/-- The entries with a node for a name: at the place of that name if it is among them, else at the
end. -/
def setEntry (name : String) (node : Node) : List (String × Node) → List (String × Node)
  | [] => [(name, node)]
  | (other, old) :: rest =>
    if other = name then (name, node) :: rest else (other, old) :: setEntry name node rest

/-- The node with another one at a location; directories on the way that are not there are made. -/
def put (node new : Node) : Location → Node
  | [] => new
  | name :: rest =>
    match node with
    | .file content => .file content
    | .directory entries =>
      let below := (entries.lookup name).getD emptyDirectory
      .directory (setEntry name (below.put new rest) entries)

end Node

end TelemetryLog
