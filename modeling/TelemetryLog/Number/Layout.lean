import TelemetryLog.Number.Shortest
import TelemetryLog.Text.Blank

/-! The text of a binary64 number: its shortest digits, written positionally or with an exponent as
a layout decides. -/

namespace TelemetryLog

open Text

structure NumberLayout where
  /-- The least exponent of the first digit that is written positionally. -/
  leastPositional : Int
  /-- The least exponent of the first digit from which the text has an exponent again. -/
  positionalLimit : Int
  /-- The least number of digits of a written exponent. -/
  exponentWidth : Nat
  deriving Repr

/-- Values of records are positional from a ten-thousandth up to ten quadrillion, and an exponent
has a sign and at least two digits. -/
def recordLayout : NumberLayout := ⟨-4, 16, 2⟩

namespace NumberLayout

def withExponent (layout : NumberLayout) (digits : List Char) (exponent : Int) : List Char :=
  let fraction := match digits with
    | first :: second :: rest => first :: '.' :: second :: rest
    | _ => digits
  fraction ++ 'e' :: (if exponent < 0 then '-' else '+') ::
    paddedDigits layout.exponentWidth exponent.natAbs

/-- Digits with `point` of them before the point and at least one after it; zeros fill both
sides. -/
def positional (digits : List Char) (point : Int) : List Char :=
  if point ≤ 0 then '0' :: '.' :: (List.replicate (-point).toNat '0' ++ digits)
  else if digits.length ≤ point.toNat then
    digits ++ List.replicate (point.toNat - digits.length) '0' ++ ['.', '0']
  else digits.take point.toNat ++ '.' :: digits.drop point.toNat

def write (layout : NumberLayout) (p : GridPoint) : List Char :=
  let all := digitsOf p.coefficient
  let point := all.length + p.exponent
  let digits := dropEndWhile (· == '0') all
  if p.coefficient = 0 then positional ['0'] 1
  else if layout.leastPositional ≤ point - 1 ∧ point - 1 < layout.positionalLimit then
    positional digits point
  else layout.withExponent digits (point - 1)

end NumberLayout

namespace Binary64

def signed (negative : Bool) (s : List Char) : List Char := if negative then '-' :: s else s

def chars : Binary64 → List Char
  | .nan => ['n', 'a', 'n']
  | .infinite negative => signed negative ['i', 'n', 'f']
  | .finite negative m q =>
    signed negative (recordLayout.write (if m = 0 then ⟨0, 0⟩ else shortest m q))

def text (x : Binary64) : String := String.ofList x.chars

end Binary64

end TelemetryLog
