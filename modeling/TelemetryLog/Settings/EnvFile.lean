import TelemetryLog.Settings.Environment
import TelemetryLog.Text.Blank
import TelemetryLog.Text.Quoted

/-! Files of variables. A line holds a name and a value, with an equals sign between them; a value
between quotation marks may go over several lines. A line that cannot be read is left out. In
values `${name}` stands for the value of a variable. -/

namespace TelemetryLog.EnvFile

open Text

/-- A name of a file with its value, which is missing when there is no equals sign. -/
abbrev Binding : Type := String × Option String

/-- The text with one character at the end of each line. -/
def withLineEnds : List Char → List Char
  | [] => []
  | '\r' :: '\n' :: rest => '\n' :: withLineEnds rest
  | '\r' :: rest => '\n' :: withLineEnds rest
  | c :: rest => c :: withLineEnds rest

def isLineBlank (c : Char) : Bool := isBlank c && c ≠ '\n'

def skipLineBlanks (s : List Char) : List Char := s.dropWhile isLineBlank

def skipExport (s : List Char) : List Char :=
  if "export".toList.isPrefixOf s && (s.drop 6).head?.any isLineBlank then
    skipLineBlanks (s.drop 6)
  else s

/-- Whether a character can stand in a name without marks. -/
def isNameChar (c : Char) : Bool := c ≠ '=' && c ≠ '#' && !isBlank c

/-- What is read from the start of a text and the rest after it, or the rest at which reading had to
stop. -/
abbrev Reading (α : Type) : Type := Except (List Char) (α × List Char)

/-- The part of a text before the first character that does not satisfy `p`, which may not be
empty. -/
def readSome (p : Char → Bool) (s : List Char) : Reading (List Char) :=
  match s.takeWhile p with
  | [] => .error s
  | part => .ok (part, s.dropWhile p)

/-- A name; a comment has none. A name between single marks may have any other characters. -/
def readName (s : List Char) : Reading (Option (List Char)) :=
  match s with
  | '#' :: _ => .ok (none, s)
  | '\x27' :: rest =>
    match readSome (· ≠ apostrophe) rest with
    | .ok (name, _ :: rest) => .ok (some name, rest)
    | _ => .error s
  | _ => (readSome isNameChar s).map fun (name, rest) => (some name, rest)

/-- The text before the closing mark, and the rest after it. A character after a backslash closes
nothing. -/
def readQuoted? (mark : Char) : List Char → Option (List Char × List Char)
  | [] => none
  | '\\' :: c :: rest =>
    (readQuoted? mark rest).map fun (part, rest) => ('\\' :: c :: part, rest)
  | c :: rest =>
    if c = mark then some ([], rest)
    else (readQuoted? mark rest).map fun (part, rest) => (c :: part, rest)

def singleEscape? (c : Char) : Option Char :=
  if c = '\\' ∨ c = apostrophe then some c else none

def doubleEscape? (c : Char) : Option Char :=
  if c = '\\' ∨ c = apostrophe ∨ c = doubleQuote then some c
  else if c = 'a' then some '\x07'
  else if c = 'b' then some '\x08'
  else if c = 'f' then some '\x0c'
  else if c = 'n' then some '\n'
  else if c = 'r' then some '\r'
  else if c = 't' then some '\t'
  else if c = 'v' then some '\x0b'
  else none

def unescape (escape? : Char → Option Char) : List Char → List Char
  | '\\' :: c :: rest =>
    match escape? c with
    | some d => d :: unescape escape? rest
    | none => '\\' :: unescape escape? (c :: rest)
  | c :: rest => c :: unescape escape? rest
  | [] => []

/-- The text before the first blanks that a comment follows. -/
def beforeComment : List Char → List Char
  | [] => []
  | c :: rest =>
    if isBlank c && (rest.dropWhile isBlank).head? = some '#' then []
    else c :: beforeComment rest

def readMarked (mark : Char) (escape? : Char → Option Char) (s rest : List Char) :
    Reading (List Char) :=
  match readQuoted? mark rest with
  | some (part, rest) => .ok (unescape escape? part, rest)
  | none => .error s

/-- A value from the equals sign on. Without marks it ends with the line, or before a comment, and
has no blanks at its ends. -/
def readValue (s : List Char) : Reading (List Char) :=
  match skipLineBlanks s with
  | '\x27' :: rest => readMarked apostrophe singleEscape? s rest
  | '\x22' :: rest => readMarked doubleQuote doubleEscape? s rest
  | _ =>
    .ok (trimBoth isBlank (beforeComment (s.takeWhile (· ≠ '\n'))), s.dropWhile (· ≠ '\n'))

def skipComment (s : List Char) : List Char :=
  match skipLineBlanks s with
  | '#' :: rest => rest.dropWhile (· ≠ '\n')
  | _ => s

def endLine (s : List Char) : Reading Unit :=
  match skipLineBlanks s with
  | [] => .ok ((), [])
  | '\n' :: rest => .ok ((), rest)
  | _ => .error s

def readAssigned (s : List Char) : Reading (Option (List Char)) :=
  match s with
  | '=' :: rest => (readValue rest).map fun (value, rest) => (some value, rest)
  | _ => .ok (none, s)

def readBinding (s : List Char) : Except (List Char) (Option Binding × List Char) := do
  let (name, s) ← readName (skipExport s)
  let (value, s) ← readAssigned (skipLineBlanks s)
  let ((), s) ← endLine (skipComment s)
  .ok (name.map fun name => (String.ofList name, value.map String.ofList), s)

/-- The bindings of a text, as far as the steps suffice. After a line that cannot be read, reading
goes on with the next one. -/
def readBindings (steps : Nat) (s : List Char) : List Binding :=
  match steps, s.dropWhile isBlank with
  | 0, _ => []
  | _, [] => []
  | steps + 1, s =>
    match readBinding s with
    | .ok (binding, rest) => binding.toList ++ readBindings steps rest
    | .error stopped => readBindings steps ((stopped.dropWhile (· ≠ '\n')).drop 1)

def byteOrderMark : Char := '\ufeff'

def withoutByteOrderMark : List Char → List Char
  | [] => []
  | c :: rest => if c = byteOrderMark then rest else c :: rest

/-- The bindings of a file. Each one consumes a character, so the length bounds the steps. -/
def bindings (content : String) : List Binding :=
  let s := withLineEnds (withoutByteOrderMark content.toList)
  readBindings (s.length + 1) s

/-- A variable in a value: its name, and the text that stands for it if it is not there. -/
structure Reference where
  name : String
  usual : String
  deriving DecidableEq, Repr

def readReference? (s : List Char) : Option (Reference × List Char) :=
  match s with
  | '\x7b' :: rest =>
    let isName (c : Char) : Bool := c ≠ '\x7d' && c ≠ ':'
    let name := String.ofList (rest.takeWhile isName)
    match rest.dropWhile isName with
    | '\x7d' :: rest => some (⟨name, ""⟩, rest)
    | ':' :: '-' :: rest =>
      match rest.dropWhile (· ≠ '\x7d') with
      | _ :: after => some (⟨name, String.ofList (rest.takeWhile (· ≠ '\x7d'))⟩, after)
      | [] => none
    | _ => none
  | _ => none

def expandFrom (resolve : Reference → String) (steps : Nat) (s : List Char) : List Char :=
  match steps, s with
  | 0, _ => s
  | _, [] => []
  | steps + 1, c :: rest =>
    match if c = '$' then readReference? rest else none with
    | some (reference, rest) => (resolve reference).toList ++ expandFrom resolve steps rest
    | none => c :: expandFrom resolve steps rest

def expand (resolve : Reference → String) (value : String) : String :=
  String.ofList (expandFrom resolve value.length value.toList)

/-- What a reference stands for: the variable of the environment, or else of the file so far. A name
of the file without a value stands for nothing. -/
def resolve (env : Environment) (earlier : List Binding) (reference : Reference) : String :=
  match env.get? reference.name, earlier.lookup reference.name with
  | some value, _ => value
  | none, some value => value.getD ""
  | none, none => reference.usual

/-- The bindings with a name bound to a value, at its place if it is among them. -/
def bind (name : String) (value : Option String) : List Binding → List Binding
  | [] => [(name, value)]
  | (other, old) :: rest =>
    if other = name then (name, value) :: rest else (other, old) :: bind name value rest

/-- The bindings of a file with their values expanded. Of bindings of one name the last one
counts. -/
def expanded (env : Environment) (content : String) : List Binding :=
  (bindings content).foldl
    (fun done (name, value) => bind name (value.map (expand (resolve env done))) done) []

end TelemetryLog.EnvFile
