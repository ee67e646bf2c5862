import TelemetryLog.Text.Printable

/-! Quoted text for diagnostics: between quotation marks, with a backslash before what would end or
alter it, and with the code of each character that is not printable. -/

namespace TelemetryLog.Text

def apostrophe : Char := '\x27'

def doubleQuote : Char := '\x22'

def hexDigits (width n : Nat) : List Char :=
  let digits := Nat.toDigits 16 n
  List.replicate (width - digits.length) '0' ++ digits

/-- The code of a character, in two, four or eight hexadecimal digits as its size needs. -/
def escapedCode (c : Char) : List Char :=
  if c.toNat < 0x100 then '\\' :: 'x' :: hexDigits 2 c.toNat
  else if c.toNat < 0x10000 then '\\' :: 'u' :: hexDigits 4 c.toNat
  else '\\' :: 'U' :: hexDigits 8 c.toNat

def escaped (mark c : Char) : List Char :=
  if c = mark ∨ c = '\\' then ['\\', c]
  else if c = '\n' then ['\\', 'n']
  else if c = '\r' then ['\\', 'r']
  else if c = '\t' then ['\\', 't']
  else if isPrintable c then [c]
  else escapedCode c

/-- Single marks are used unless the text has a single mark and no double one. -/
def markFor (s : List Char) : Char :=
  if s.contains apostrophe && !s.contains doubleQuote then doubleQuote else apostrophe

def quoted (s : List Char) : List Char :=
  let mark := markFor s
  mark :: s.flatMap (escaped mark) ++ [mark]

end TelemetryLog.Text
