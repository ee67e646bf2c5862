/-! Ranges of code points, and membership of a character in a table of ranges. -/

namespace TelemetryLog.Text

/-- Whether the code point of `c` lies in one of the ranges, whose ends are included. -/
def inRanges (ranges : List (Nat × Nat)) (c : Char) : Bool :=
  ranges.any fun (first, last) => first ≤ c.toNat && c.toNat ≤ last

end TelemetryLog.Text
