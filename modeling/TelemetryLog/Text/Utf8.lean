import TelemetryLog.Text.Quoted

/-! UTF-8: the bytes of a character, the well-formed sequence that some bytes start with, and two
readings of any bytes. The strict reading fails at the first byte of no sequence; the lenient one
writes the code of each such byte and goes on after it. -/

namespace TelemetryLog.Text.Utf8

def encodeChar (c : Char) : List UInt8 :=
  let n := c.toNat
  let byte (lead shift : Nat) : UInt8 := (lead + (n >>> shift) % 64).toUInt8
  if n < 0x80 then [n.toUInt8]
  else if n < 0x800 then [(0xc0 + n >>> 6).toUInt8, byte 0x80 0]
  else if n < 0x10000 then [(0xe0 + n >>> 12).toUInt8, byte 0x80 6, byte 0x80 0]
  else [(0xf0 + n >>> 18).toUInt8, byte 0x80 12, byte 0x80 6, byte 0x80 0]

def encode (s : List Char) : List UInt8 := s.flatMap encodeChar

/-- What a first byte announces: how many bytes follow it, the part of the code that it holds, and
the least and the greatest second byte. Overlong forms, surrogates and codes past the last
character have no second byte in these bounds. -/
def lead? (b : UInt8) : Option (Nat × Nat × UInt8 × UInt8) :=
  if b < 0x80 then some (0, b.toNat, 0, 0)
  else if b < 0xc2 then none
  else if b < 0xe0 then some (1, b.toNat - 0xc0, 0x80, 0xbf)
  else if b = 0xe0 then some (2, 0, 0xa0, 0xbf)
  else if b = 0xed then some (2, 0xd, 0x80, 0x9f)
  else if b < 0xf0 then some (2, b.toNat - 0xe0, 0x80, 0xbf)
  else if b = 0xf0 then some (3, 0, 0x90, 0xbf)
  else if b < 0xf4 then some (3, b.toNat - 0xf0, 0x80, 0xbf)
  else if b = 0xf4 then some (3, 4, 0x80, 0x8f)
  else none

/-- The code after `count` more bytes, the first of them between `low` and `high` and the others
any continuation bytes. -/
def continued? (count code : Nat) (low high : UInt8) (bytes : List UInt8) : Option Nat :=
  match count, bytes with
  | 0, _ => some code
  | _ + 1, [] => none
  | more + 1, b :: rest =>
    if low ≤ b ∧ b ≤ high then continued? more (64 * code + (b.toNat - 0x80)) 0x80 0xbf rest
    else none

/-- The character of the well-formed sequence that `b` starts before `rest`, and how many bytes of
`rest` belong to it. -/
def charAt? (b : UInt8) (rest : List UInt8) : Option (Char × Nat) :=
  match lead? b with
  | none => none
  | some (count, code, low, high) =>
    (continued? count code low high rest).map fun n => (Char.ofNat n, count)

/-- The characters of bytes that are well formed throughout, after `skip` bytes that belong to a
character already read. -/
def decodeFrom (skip : Nat) (bytes : List UInt8) : Option (List Char) :=
  match skip, bytes with
  | _, [] => some []
  | more + 1, _ :: rest => decodeFrom more rest
  | 0, b :: rest =>
    match charAt? b rest with
    | some (c, count) => (decodeFrom count rest).map (c :: ·)
    | none => none

def decode? (bytes : List UInt8) : Option (List Char) := decodeFrom 0 bytes

def strayByte (b : UInt8) : List Char := '\\' :: 'x' :: hexDigits 2 b.toNat

def readFrom (skip : Nat) (bytes : List UInt8) : List Char :=
  match skip, bytes with
  | _, [] => []
  | more + 1, _ :: rest => readFrom more rest
  | 0, b :: rest =>
    match charAt? b rest with
    | some (c, count) => c :: readFrom count rest
    | none => strayByte b ++ readFrom 0 rest

/-- The lenient reading of bytes: nothing is dropped. -/
def read (bytes : List UInt8) : List Char := readFrom 0 bytes

end TelemetryLog.Text.Utf8
