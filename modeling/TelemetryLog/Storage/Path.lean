import TelemetryLog.Text.Quoted
import TelemetryLog.Text.Split
import TelemetryLog.Text.Utf8

/-! Paths. A path starts at the working directory or at the root, and names one part after another.
Empty parts and single points say nothing and are left out; two points stay. Exactly two slashes at
the start are a root of their own. -/

namespace TelemetryLog

open Text

inductive PathRoot where
  | here
  | root
  | doubleRoot
  deriving DecidableEq, Repr, Inhabited

structure Path where
  start : PathRoot
  parts : List String
  deriving DecidableEq, Repr, Inhabited

namespace Path

def rootOf : List Char → PathRoot
  | '/' :: '/' :: '/' :: _ => .root
  | '/' :: '/' :: _ => .doubleRoot
  | '/' :: _ => .root
  | _ => .here

/-- Whether a piece between slashes names a part. -/
def namesPart (piece : List Char) : Bool := piece ≠ [] && piece ≠ ['.']

def ofText (s : String) : Path :=
  ⟨rootOf s.toList, ((splitAt '/' s.toList).filter namesPart).map String.ofList⟩

/-- Whether a text ends with a piece that names a part; any other text leads to a directory. -/
def endsWithPart (s : String) : Bool := (splitAt '/' s.toList).getLast?.any namesPart

def rootChars : PathRoot → List Char
  | .here => []
  | .root => ['/']
  | .doubleRoot => ['/', '/']

/-- The characters of a path; a path without any is the single point. -/
def chars (p : Path) : List Char :=
  match rootChars p.start ++ joinWith ['/'] (p.parts.map String.toList) with
  | [] => ['.']
  | cs => cs

def text (p : Path) : String := String.ofList p.chars

def literal (p : Path) : String := String.ofList (quoted p.chars)

/-- The path `q` as seen from `p`; a path from a root is the same from everywhere. -/
def join (p q : Path) : Path := if q.start = .here then ⟨p.start, p.parts ++ q.parts⟩ else q

def parent (p : Path) : Path := ⟨p.start, p.parts.dropLast⟩

/-- Whether a path has a character that no stored name can have. -/
def hasNul (p : Path) : Bool := p.chars.contains '\x00'

def byteLength (p : Path) : Nat := (Utf8.encode p.chars).length

end Path

end TelemetryLog
