import TelemetryLog.Text.Blank
import TelemetryLog.Text.Digit
import TelemetryLog.Text.Split

/-! Whole numbers in text: an optional sign and decimal digits with single underscores between
them, with white space on both sides, and not too many digits. A configured number may use the
digits of any script; a number in a record uses ASCII digits and may end in a point and zeros. -/

namespace TelemetryLog.Text

inductive NumeralFault where
  | malformed
  | tooLong (digits : Nat)
  deriving DecidableEq, Repr

/-- The number that follows `acc` when digits and single underscores between digits are read;
`afterDigit` says whether a digit was read last. -/
def readDigits (digit? : Char → Option Nat) (acc : Nat) (afterDigit : Bool) :
    List Char → Option Nat
  | [] => if afterDigit then some acc else none
  | c :: rest =>
    match digit? c with
    | some d => readDigits digit? (10 * acc + d) true rest
    | none => if c = '_' && afterDigit then readDigits digit? acc false rest else none

def readSigned (digit? : Char → Option Nat) : List Char → Option Int
  | '-' :: rest => (readDigits digit? 0 false rest).map fun n => -(n : Int)
  | '+' :: rest => (readDigits digit? 0 false rest).map Int.ofNat
  | s => (readDigits digit? 0 false s).map Int.ofNat

def withoutSign : List Char → List Char
  | '-' :: rest => rest
  | '+' :: rest => rest
  | s => s

/-- The number of digits at the start of a text, if the underscores among them stand between
digits. -/
def leadingDigits? (s : List Char) : Option Nat :=
  let run := s.takeWhile fun c => (decimalDigit? c).isSome || c = '_'
  (readDigits decimalDigit? 0 false run).map fun _ => run.countP (· ≠ '_')

def greatestDigitCount : Nat := 4300

/-- A whole number in a setting. Too many digits are a fault of their own, whatever follows them. -/
def configuredInteger (s : List Char) : Except NumeralFault Int :=
  let trimmed := trimBoth isWhiteSpace s
  match (leadingDigits? (withoutSign trimmed)).filter (greatestDigitCount < ·) with
  | some count => .error (.tooLong count)
  | none =>
    match readSigned decimalDigit? trimmed with
    | some i => .ok i
    | none => .error .malformed

/-! Numbers in records. -/

/-- A natural number without needless zeros before its digits. Too many digits are a fault of their
own, whatever follows them. -/
def plainNatural (s : List Char) : Except NumeralFault Nat :=
  let digits := (s.takeWhile fun c => (asciiDigit? c).isSome).filterMap asciiDigit?
  if greatestDigitCount < digits.length ∧ digits.head? ≠ some 0 then .error (.tooLong digits.length)
  else if digits.length = s.length ∧ (digits = [0] ∨ digits.head?.any (· ≠ 0)) then
    .ok (ofDigits digits)
  else .error .malformed

def plainInteger : List Char → Except NumeralFault Int
  | '-' :: rest => (plainNatural rest).map fun n => -(n : Int)
  | s => (plainNatural s).map Int.ofNat

/-- The rest of a text after zeros and the underscores among them, of which the last character is
given. It starts with a digit or a sign; where a point or nothing follows, the last character is
kept. -/
def afterZeros? (last : Char) : List Char → Option (List Char)
  | [] => some [last]
  | c :: rest =>
    if c = '0' ∨ c = '_' then afterZeros? c rest
    else if c = '-' ∨ (asciiDigit? c).isSome then some (c :: rest)
    else if c = '.' then some (last :: c :: rest)
    else none

def withoutZeros? : List Char → Option (List Char)
  | [] => none
  | c :: rest =>
    if c = '0' then afterZeros? c rest
    else if (asciiDigit? c).isSome then some (c :: rest)
    else none

/-- The text before its first point, if nothing but zeros follows the point, and at least one. -/
def withoutFraction? (s : List Char) : Option (List Char) :=
  match s.dropWhile (· ≠ '.') with
  | [] => some s
  | _ :: fraction =>
    if fraction ≠ [] ∧ fraction.all (· = '0') then some (s.takeWhile (· ≠ '.')) else none

/-- The text without its underscores, each of which has to stand alone and between others. -/
def withoutUnderscores? (s : List Char) : Option (List Char) :=
  let pieces := splitAt '_' s
  if pieces.any List.isEmpty then none else some pieces.flatten

def plainDigits? (s : List Char) : Option (List Char) := do
  withoutUnderscores? (← withoutFraction? (← withoutZeros? s))

/-- The plain form of a number: without blanks around it, a plus sign, needless zeros, a fraction
and underscores. -/
def plainForm? (s : List Char) : Option (List Char) :=
  match trimBoth isWhiteSpace s with
  | '+' :: rest => plainDigits? rest
  | '-' :: rest => (plainDigits? rest).map ('-' :: ·)
  | s => plainDigits? s

/-- A whole number in a record, which is in its plain form or is put into it. Only the text as it
stands can be at fault for too many digits; a text that had to be changed is malformed then. -/
def recordedInteger (s : List Char) : Except NumeralFault Int :=
  match plainInteger s with
  | .error .malformed =>
    match (plainForm? s).map plainInteger with
    | some (.ok i) => .ok i
    | _ => .error .malformed
  | result => result

end TelemetryLog.Text
