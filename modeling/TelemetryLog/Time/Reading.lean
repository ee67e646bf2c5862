import TelemetryLog.Time.Stamp
import TelemetryLog.Number.Decimal
import TelemetryLog.Text.Utf8

/-! The time of a record, from a number or from a text. A number counts seconds, or milliseconds
when seconds would lie too far away. A text holds such a number, or a date with a time of day and
an offset, or a date alone. -/

namespace TelemetryLog

open Text

inductive DateFault where
  | tooShort
  | badYear
  | badSeparator
  | badMonth
  | badDay
  | monthRange
  | dayRange
  | extraText
  deriving DecidableEq, Repr

inductive TimeFault where
  | notTime
  | notNumber
  | tooLate (inText : Bool)
  | tooEarly (inText : Bool)
  | yearZero
  | unreadable (fault : DateFault)
  deriving DecidableEq, Repr

def DateFault.message : DateFault → String
  | .tooShort => "input is too short"
  | .badYear => "invalid character in year"
  | .badSeparator => "invalid date separator, expected \x60-\x60"
  | .badMonth => "invalid character in month"
  | .badDay => "invalid character in day"
  | .monthRange => "month value is outside expected range of 1-12"
  | .dayRange => "day value is outside expected range"
  | .extraText => "unexpected extra characters at the end of the input"

def TimeFault.message : TimeFault → String
  | .notTime => "Input should be a valid datetime"
  | .notNumber => "Input should be a valid datetime, NaN values not permitted"
  | .tooLate inText =>
    opening inText ++ "dates after 9999 are not supported as unix timestamps"
  | .tooEarly inText =>
    opening inText ++ "dates before 0000 are not supported as unix timestamps"
  | .yearZero => "Input should be a valid datetime, year 0 is out of range"
  | .unreadable fault => opening true ++ fault.message
where
  opening (inText : Bool) : String :=
    if inText then "Input should be a valid datetime or date, "
    else "Input should be a valid datetime, "

namespace Stamp

def greatestSeconds : Int := 20000000000

def lastSecond : Int := 253402300799

def firstSecond : Int := -62167219200

def ofUnix (inText : Bool) (second microseconds : Int) : Except TimeFault Stamp :=
  if lastSecond < second then .error (.tooLate inText)
  else if second < firstSecond then .error (.tooEarly inText)
  else
    match WallTime.ofMicroseconds? (Date.epochDay * perDay + second * perSecond + microseconds) with
    | some wall => .ok ⟨wall, some 0⟩
    | none => .error .yearZero

def ofInteger (inText : Bool) (i : Int) : Except TimeFault Stamp :=
  if i.natAbs ≤ greatestSeconds then ofUnix inText i 0
  else ofUnix inText (i / 1000) (i % 1000 * 1000)

/-- The product of a fraction `num / den` and a scale, first as the nearest binary64 number and
then as the nearest integer, a half going up. -/
def scaled (num den scale : Nat) : Int :=
  match Binary64.ofQuotient false num den with
  | .finite _ m q =>
    let (num, den) := Binary64.fraction false m q
    match Binary64.ofQuotient false (num.toNat * scale) den with
    | .finite _ m q =>
      let (num, den) := Binary64.fraction false m q
      (2 * num + den) / (2 * den)
    | _ => 0
  | _ => 0

def ofNumber : Binary64 → Except TimeFault Stamp
  | .nan => .error .notNumber
  | .infinite negative => .error (if negative then .tooEarly false else .tooLate false)
  | .finite negative m q =>
    let (num, den) := Binary64.fraction negative m q
    let whole := num / den
    let rest := (num % den).toNat
    if num.natAbs ≤ greatestSeconds * den then ofUnix false whole (scaled rest den 1000000)
    else ofUnix false (whole / 1000) (whole % 1000 * 1000 + scaled rest den 1000)

/-! Texts. -/

def greatestInText : Nat := twoTo 63 - 1

/-- The instant of an integer that a text holds, unless it is too great. -/
def ofWhole? (negative : Bool) (n : Nat) : Option (Except TimeFault Stamp) :=
  let i : Int := if negative then -n else n
  if n ≤ greatestInText then some (ofInteger true i) else none

/-- The instant of a number with a point, from what stands before the point and after it: digits on
one side at least, and maybe an exponent. The instant has to lie within the calendar: a number with
a point that counts too far is not taken as a number at all. -/
def ofPointed? (negative : Bool) (whole : List Nat) (s : List Char) :
    Option (Except TimeFault Stamp) := do
  let (fraction, s) := Decimal.readDigits s
  let (exponent, s) ← Decimal.readExponent? s
  if s ≠ [] ∨ whole ++ fraction = [] then none
  else
    match ofNumber (Decimal.ofParts negative whole fraction (exponent.getD 0)).toBinary64 with
    | .error (.tooLate _) | .error (.tooEarly _) => none
    | result => some result

def ofNumeral? (s : List Char) : Option (Except TimeFault Stamp) :=
  let (negative, s) := Decimal.readSign s
  match Decimal.readDigits s with
  | (whole, '.' :: rest) => ofPointed? negative whole rest
  | (whole, rest) => if whole ≠ [] ∧ rest = [] then ofWhole? negative (ofDigits whole) else none

def twoDigits? (a b : Char) : Option Nat := do
  let a ← asciiDigit? a
  let b ← asciiDigit? b
  some (10 * a + b)

def fourDigits? (a b c d : Char) : Option Nat := do
  let high ← twoDigits? a b
  let low ← twoDigits? c d
  some (100 * high + low)

/-- The bytes of a text, each as the character of its code. -/
def byteChars (s : List Char) : List Char := (Utf8.encode s).map fun b => Char.ofNat b.toNat

/-- The date in the first ten bytes of a text, or the first fault that is met. The month and the
day are checked against the calendar after all of them have been read. -/
def readDate (bytes : List Char) : Except DateFault Date :=
  match bytes with
  | y1 :: y2 :: y3 :: y4 :: s1 :: m1 :: m2 :: s2 :: d1 :: d2 :: _ =>
    match fourDigits? y1 y2 y3 y4 with
    | none => .error .badYear
    | some year =>
      if s1 ≠ '-' then .error .badSeparator
      else match twoDigits? m1 m2 with
        | none => .error .badMonth
        | some month =>
          if s2 ≠ '-' then .error .badSeparator
          else match twoDigits? d1 d2 with
            | none => .error .badDay
            | some day =>
              if month < 1 ∨ 12 < month then .error .monthRange
              else if day < 1 ∨ Date.daysInMonth year month < day then .error .dayRange
              else .ok ⟨year, month, day⟩
  | _ => .error .tooShort

def readTwo? (limit : Nat) : List Char → Option (Nat × List Char)
  | a :: b :: rest =>
    match twoDigits? a b with
    | some n => if n < limit then some (n, rest) else none
    | none => none
  | _ => none

/-- The microseconds of the digits after a point; what is finer is cut off. -/
def microsecondsOf (digits : List Nat) : Nat :=
  ofDigits (digits.take 6) * tenTo (6 - digits.length)

def readSeconds? (s : List Char) : Option ((Nat × Nat) × List Char) :=
  match s with
  | ':' :: rest => do
    let (second, rest) ← readTwo? 60 rest
    match rest with
    | c :: after =>
      if c = '.' ∨ c = ',' then
        match Decimal.readDigits after with
        | ([], _) => none
        | (digits, rest) => some ((second, microsecondsOf digits), rest)
      else some ((second, 0), rest)
    | [] => some ((second, 0), [])
  | _ => some ((0, 0), s)

def readOffset? (s : List Char) : Option Int := do
  let (hours, s) ← readTwo? 24 s
  let s := match s with
    | ':' :: rest => rest
    | _ => s
  let (minutes, s) ← readTwo? 60 s
  if s = [] then some ((3600 * hours + 60 * minutes) * perSecond) else none

/-- What a text says of the offset: nothing, that there is none, or a sign and the offset. -/
def readZone? (s : List Char) : Option (Option Int) :=
  match s with
  | [] => some none
  | c :: rest =>
    if c = 'Z' ∨ c = 'z' then if rest = [] then some (some 0) else none
    else if c = '+' then (readOffset? rest).map some
    else if c = '-' ∨ c = '\u2212' then (readOffset? rest).map fun n => some (-n)
    else none

def readClock? (date : Date) (s : List Char) : Option Stamp := do
  let (hour, s) ← readTwo? 24 s
  let (minute, s) ← match s with
    | ':' :: rest => readTwo? 60 rest
    | _ => none
  let ((second, microsecond), s) ← readSeconds? s
  let offset ← readZone? s
  some ⟨⟨date, hour, minute, second, microsecond⟩, offset⟩

def isBetweenParts (c : Char) : Bool := c = 'T' || c = 't' || c = ' ' || c = '_'

def ofDate (date : Date) (rest : List Char) : Except TimeFault Stamp :=
  let stamp? := match rest with
    | [] => some ⟨.midnight date, none⟩
    | c :: rest => if isBetweenParts c then readClock? date rest else none
  match stamp? with
  | none => .error (.unreadable .extraText)
  | some stamp => if date.year = 0 then .error .yearZero else .ok stamp

def ofChars (s : List Char) : Except TimeFault Stamp :=
  match ofNumeral? s with
  | some result => result
  | none =>
    match readDate (byteChars s) with
    | .error fault => .error (.unreadable fault)
    | .ok date => ofDate date (s.drop 10)

end Stamp

end TelemetryLog
