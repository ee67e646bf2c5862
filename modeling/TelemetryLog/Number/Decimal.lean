import TelemetryLog.Number.Binary64
import TelemetryLog.Text.Digit

/-! Decimal numbers in text, and the binary64 number nearest to each. A decimal whose size is
beyond all finite numbers, or below half of the least one, is decided by its size alone. -/

namespace TelemetryLog

open Text

/-- The decimal number `coefficient * 10 ^ exponent` with a sign. -/
structure Decimal where
  negative : Bool
  coefficient : Nat
  exponent : Int
  deriving DecidableEq, Repr

namespace Decimal

/-- The decimal whose digits before and after the point are given, shifted by an exponent. -/
def ofParts (negative : Bool) (whole fraction : List Nat) (exponent : Int) : Decimal :=
  ⟨negative, ofDigits (whole ++ fraction), exponent - fraction.length⟩

def toBinary64 (d : Decimal) : Binary64 :=
  let size := (digitsOf d.coefficient).length + d.exponent
  if d.coefficient = 0 ∨ size < -330 then Binary64.zero d.negative
  else if 310 < size then .infinite d.negative
  else .ofQuotient d.negative (d.coefficient * tenTo d.exponent.toNat)
    (tenTo (-d.exponent).toNat)

def readDigits : List Char → List Nat × List Char
  | [] => ([], [])
  | c :: rest =>
    match asciiDigit? c with
    | some d => let (ds, rest') := readDigits rest; (d :: ds, rest')
    | none => ([], c :: rest)

/-- A point and the digits after it, if the text starts so, and the rest; a point that no digit
follows is refused. -/
def readFraction? : List Char → Option (Option (List Nat) × List Char)
  | '.' :: rest =>
    match readDigits rest with
    | ([], _) => none
    | (ds, rest') => some (some ds, rest')
  | s => some (none, s)

def readSign : List Char → Bool × List Char
  | '-' :: rest => (true, rest)
  | '+' :: rest => (false, rest)
  | s => (false, s)

/-- An exponent mark, a sign and digits, if the text starts with the mark, and the rest; a mark
that no digit follows is refused. -/
def readExponent? (s : List Char) : Option (Option Int × List Char) :=
  match s with
  | [] => some (none, [])
  | c :: rest =>
    if c = 'e' ∨ c = 'E' then
      let (negative, rest) := readSign rest
      match readDigits rest with
      | ([], _) => none
      | (ds, rest') =>
        some (some (if negative then -(ofDigits ds : Int) else ofDigits ds), rest')
    else some (none, c :: rest)

end Decimal

end TelemetryLog
