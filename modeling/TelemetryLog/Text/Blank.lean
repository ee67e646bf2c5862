import TelemetryLog.Text.Range

/-! White space: the Unicode property, the wider class of blanks, and the trimming of both ends of
a text. -/

namespace TelemetryLog.Text

def whiteSpaceRanges : List (Nat × Nat) :=
  [(0x9, 0xd), (0x20, 0x20), (0x85, 0x85), (0xa0, 0xa0), (0x1680, 0x1680), (0x2000, 0x200a),
   (0x2028, 0x2029), (0x202f, 0x202f), (0x205f, 0x205f), (0x3000, 0x3000)]

def isWhiteSpace (c : Char) : Bool := inRanges whiteSpaceRanges c

/-- A blank is white space or one of the four information separators. -/
def isBlank (c : Char) : Bool := isWhiteSpace c || inRanges [(0x1c, 0x1f)] c

def dropEndWhile (p : Char → Bool) (s : List Char) : List Char :=
  (s.reverse.dropWhile p).reverse

def trimBoth (p : Char → Bool) (s : List Char) : List Char :=
  dropEndWhile p (s.dropWhile p)

end TelemetryLog.Text
