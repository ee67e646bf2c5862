import TelemetryLog.Journal
import TelemetryLog.Text.Quoted

/-! The threshold of the journal: entries that weigh less are left out. It is given by the name of a
level; a name that stands for none counts as the level of information. -/

namespace TelemetryLog

open Text

/-- The least weight of an entry that is let through. -/
structure Threshold where
  weight : Int
  deriving DecidableEq, Repr

/-- A name that stands for something else than a level. -/
inductive ThresholdFault where
  | layout (text : String)
  | layoutTable (text : String)
  deriving DecidableEq, Repr

def ThresholdFault.message : ThresholdFault → String
  | .layout text => "Unknown level: " ++ String.ofList (quoted text.toList)
  | .layoutTable text => "Level not an integer or a valid string: " ++ text

namespace Threshold

def weights : List (String × Int) :=
  [("CRITICAL", 50), ("FATAL", 50), ("ERROR", Level.error.weight),
    ("WARNING", Level.warning.weight), ("WARN", Level.warning.weight),
    ("INFO", Level.info.weight), ("DEBUG", Level.debug.weight), ("NOTSET", 0)]

def reserved : List (String × ThresholdFault) :=
  [("BASIC_FORMAT", .layout "%(levelname)s:%(name)s:%(message)s"),
    ("_STYLES", .layoutTable
      ("\x7b'%': (<class 'logging.PercentStyle'>, '%(levelname)s:%(name)s:%(message)s'), " ++
        "'\x7b': (<class 'logging.StrFormatStyle'>, " ++
        "'\x7blevelname\x7d:\x7bname\x7d:\x7bmessage\x7d'), " ++
        "'$': (<class 'logging.StringTemplateStyle'>, " ++
        "'$\x7blevelname\x7d:$\x7bname\x7d:$\x7bmessage\x7d')\x7d"))]

def everything : Threshold := ⟨0⟩

def ofName (name : String) : Except ThresholdFault Threshold :=
  match reserved.lookup name with
  | some fault => .error fault
  | none => .ok ⟨(weights.lookup name).getD Level.info.weight⟩

def admits (threshold : Threshold) (entry : Entry) : Bool := threshold.weight ≤ entry.level.weight

def filter (threshold : Threshold) (journal : List Entry) : List Entry :=
  journal.filter threshold.admits

end Threshold

end TelemetryLog
