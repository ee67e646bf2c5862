import TelemetryLog.Value
import TelemetryLog.Text.Utf8

/-! JSON texts and their values. The bytes are UTF-8, blanks are the four that the format names,
and arrays and objects lie within each other to a bounded depth. An integer of 64 bits, signed or
not, is kept exactly; every other number is the nearest binary64 number and has to be finite. -/

namespace TelemetryLog.Json

open Text

/-- The greatest number of arrays and objects that lie within each other. -/
def greatestDepth : Nat := 1024

def isSpace (c : Char) : Bool := c = ' ' || c = '\t' || c = '\n' || c = '\r'

def skipSpace (s : List Char) : List Char := s.dropWhile isSpace

def afterWord? : List Char → List Char → Option (List Char)
  | [], s => some s
  | w :: word, c :: rest => if c = w then afterWord? word rest else none
  | _ :: _, [] => none

def hexDigit? (c : Char) : Option Nat :=
  if '0' ≤ c ∧ c ≤ '9' then some (c.toNat - 48)
  else if 'a' ≤ c ∧ c ≤ 'f' then some (c.toNat - 87)
  else if 'A' ≤ c ∧ c ≤ 'F' then some (c.toNat - 55)
  else none

def unit? (a b c d : Char) : Option Nat := do
  let a ← hexDigit? a
  let b ← hexDigit? b
  let c ← hexDigit? c
  let d ← hexDigit? d
  some (((a * 16 + b) * 16 + c) * 16 + d)

def shortEscape? (c : Char) : Option Char :=
  if c = '\x22' ∨ c = '\\' ∨ c = '/' then some c
  else if c = 'b' then some '\x08'
  else if c = 'f' then some '\x0c'
  else if c = 'n' then some '\n'
  else if c = 'r' then some '\r'
  else if c = 't' then some '\t'
  else none

def readLowUnit? : List Char → Option (Nat × List Char)
  | '\\' :: 'u' :: a :: b :: c :: d :: rest =>
    match unit? a b c d with
    | some n => if 0xdc00 ≤ n ∧ n ≤ 0xdfff then some (n, rest) else none
    | none => none
  | _ => none

/-- The character that an escape stands for, and the rest; the backslash has been read. A pair of
units is one character, and a unit of a pair alone is refused. -/
def readEscape? : List Char → Option (Char × List Char)
  | 'u' :: a :: b :: c :: d :: rest =>
    match unit? a b c d with
    | none => none
    | some n =>
      if 0xd800 ≤ n ∧ n ≤ 0xdbff then
        (readLowUnit? rest).map fun (low, rest) =>
          (Char.ofNat (0x10000 + (n - 0xd800) * 0x400 + (low - 0xdc00)), rest)
      else if 0xdc00 ≤ n ∧ n ≤ 0xdfff then none
      else some (Char.ofNat n, rest)
  | c :: rest => (shortEscape? c).map (·, rest)
  | [] => none

def readString? (fuel : Nat) (s : List Char) : Option (List Char × List Char) :=
  match fuel, s with
  | 0, _ => none
  | _, [] => none
  | fuel + 1, c :: rest =>
    if c = '\x22' then some ([], rest)
    else if c = '\\' then
      match readEscape? rest with
      | some (d, rest) => (readString? fuel rest).map fun (cs, rest) => (d :: cs, rest)
      | none => none
    else if c.toNat < 0x20 then none
    else (readString? fuel rest).map fun (cs, rest) => (c :: cs, rest)

/-- The least integer that is kept exactly. -/
def leastInteger : Int := -twoTo 63

def greatestInteger : Int := twoTo 64 - 1

def finiteNumber? : Binary64 → Option Scalar
  | .finite negative m q => some (.number (.finite negative m q))
  | _ => none

def numberOf? (negative : Bool) (whole : List Nat) (fraction : Option (List Nat))
    (exponent : Option Int) : Option Scalar :=
  match fraction, exponent with
  | none, none =>
    let i : Int := if negative then -(ofDigits whole : Int) else ofDigits whole
    if leastInteger ≤ i ∧ i ≤ greatestInteger then some (.int i)
    else finiteNumber? (Decimal.ofParts negative whole [] 0).toBinary64
  | _, _ =>
    finiteNumber? (Decimal.ofParts negative whole (fraction.getD []) (exponent.getD 0)).toBinary64

/-- Digits without a needless zero at the start. -/
def isWhole : List Nat → Bool
  | [] => false
  | [_] => true
  | d :: _ :: _ => d ≠ 0

def readNumber? (s : List Char) : Option (Scalar × List Char) := do
  let (negative, s) := match s with
    | '-' :: rest => (true, rest)
    | _ => (false, s)
  let (whole, s) := Decimal.readDigits s
  if isWhole whole then
    let (fraction, s) ← Decimal.readFraction? s
    let (exponent, s) ← Decimal.readExponent? s
    let number ← numberOf? negative whole fraction exponent
    some (number, s)
  else none

def readScalar? (s : List Char) : Option (Scalar × List Char) :=
  match s with
  | 'n' :: rest => (afterWord? ['u', 'l', 'l'] rest).map (Scalar.null, ·)
  | 't' :: rest => (afterWord? ['r', 'u', 'e'] rest).map (Scalar.bool true, ·)
  | 'f' :: rest => (afterWord? ['a', 'l', 's', 'e'] rest).map (Scalar.bool false, ·)
  | '\x22' :: rest =>
    (readString? s.length rest).map fun (cs, rest) => (.text (String.ofList cs), rest)
  | _ => readNumber? s

mutual

/-- The value at the start of a text, and the rest, with `depth` more arrays and objects allowed
within each other. -/
def readValue? (fuel depth : Nat) (s : List Char) : Option (Value × List Char) :=
  match fuel with
  | 0 => none
  | fuel + 1 =>
    match s with
    | '[' :: rest =>
      match depth, skipSpace rest with
      | 0, _ => none
      | _ + 1, ']' :: rest => some (.array [], rest)
      | depth + 1, rest => (readItems? fuel depth rest).map fun (vs, rest) => (.array vs, rest)
    | '\x7b' :: rest =>
      match depth, skipSpace rest with
      | 0, _ => none
      | _ + 1, '\x7d' :: rest => some (.object [], rest)
      | depth + 1, rest =>
        (readMembers? fuel depth rest).map fun (ms, rest) => (Value.ofMembers ms, rest)
    | s => (readScalar? s).map fun (v, rest) => (.scalar v, rest)

/-- The items of an array up to its end, and the rest; there is at least one item. -/
def readItems? (fuel depth : Nat) (s : List Char) : Option (List Value × List Char) :=
  match fuel with
  | 0 => none
  | fuel + 1 =>
    match readValue? fuel depth s with
    | none => none
    | some (value, rest) =>
      match skipSpace rest with
      | ']' :: rest => some ([value], rest)
      | ',' :: rest =>
        (readItems? fuel depth (skipSpace rest)).map fun (vs, rest) => (value :: vs, rest)
      | _ => none

def readMembers? (fuel depth : Nat) (s : List Char) :
    Option (List (Scalar × Value) × List Char) :=
  match fuel with
  | 0 => none
  | fuel + 1 =>
    match readKey? s with
    | none => none
    | some (key, rest) =>
      match readValue? fuel depth rest with
      | none => none
      | some (value, rest) =>
        match skipSpace rest with
        | '\x7d' :: rest => some ([(key, value)], rest)
        | ',' :: rest =>
          (readMembers? fuel depth (skipSpace rest)).map fun (ms, rest) =>
            ((key, value) :: ms, rest)
        | _ => none
where
  readKey? : List Char → Option (Scalar × List Char)
    | '\x22' :: rest =>
      match readString? (rest.length + 1) rest with
      | none => none
      | some (cs, rest) =>
        match skipSpace rest with
        | ':' :: rest => some (.text (String.ofList cs), skipSpace rest)
        | _ => none
    | _ => none

end

/-- The value of a text. Each step down or along consumes a character, so twice the length bounds
the steps. -/
def ofChars? (s : List Char) : Option Value :=
  match readValue? (2 * s.length + 2) greatestDepth (skipSpace s) with
  | some (value, rest) => if skipSpace rest = [] then some value else none
  | none => none

def ofBytes? (bytes : List UInt8) : Option Value := (Utf8.decode? bytes).bind ofChars?

end TelemetryLog.Json
