import TelemetryLog.Text.CaseTable
import TelemetryLog.Text.CaseContext

/-! Small and capital letters of a whole text. A capital sigma takes its final form after a cased
character and before none, characters that case ignores being skipped on both sides; every other
character is mapped on its own, to one character or to several. -/

namespace TelemetryLog.Text

/-- The capital sigma, the only letter whose small form hangs on its neighbours. -/
def capitalSigma : Char := '\u03a3'

/-- The capital letter whose small form is two characters. -/
def dottedCapitalI : Char := '\u0130'

def smallForm (c : Char) : List Char :=
  if c = dottedCapitalI then ['i', '\u0307'] else [mapCase smallRuns c]

/-- Whether the first character that case does not ignore is cased. -/
def startsCased : List Char → Bool
  | [] => false
  | c :: rest => if isCaseIgnorable c then startsCased rest else isCased c

/-- The small form of a capital sigma between a text that ends `afterCased` and the text `rest`. -/
def smallSigma (afterCased : Bool) (rest : List Char) : Char :=
  if afterCased && !startsCased rest then '\u03c2' else '\u03c3'

/-- Small letters of a text, where `afterCased` says whether a cased character stands before it. -/
def smallFrom (afterCased : Bool) : List Char → List Char
  | [] => []
  | c :: rest =>
    (if c = capitalSigma then [smallSigma afterCased rest] else smallForm c) ++
      smallFrom (if isCaseIgnorable c then afterCased else isCased c) rest

def small (s : List Char) : List Char := smallFrom false s

def capitalForm (c : Char) : List Char :=
  match longCapitals.lookup c.toNat with
  | some codes => codes.map Char.ofNat
  | none => [mapCase capitalRuns c]

def capitals (s : List Char) : List Char := s.flatMap capitalForm

/-- The text with the ASCII capitals made small and all else kept. -/
def asciiSmall (s : List Char) : List Char := s.map Char.toLower

end TelemetryLog.Text
