/-! Powers of two and of ten, the bases of binary and of decimal numbers. -/

namespace TelemetryLog

def twoTo (n : Nat) : Nat := Nat.pow 2 n

def tenTo (n : Nat) : Nat := Nat.pow 10 n

end TelemetryLog
