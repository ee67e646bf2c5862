import TelemetryLog.Number.Decimal

/-! The fewest decimal digits that identify a binary64 number. The reals that round to `m * 2 ^ q`
reach half way to its two neighbours, the ends belonging to it when `m` is even. For one digit, two
digits and so on, the decimal grid of that many digits has two points next to the number; the first
grid with a point among those reals is taken, and the nearer of its two points. -/

namespace TelemetryLog

structure GridPoint where
  coefficient : Nat
  exponent : Int
  deriving DecidableEq, Repr

namespace Binary64

open Text

/-- Both sides of a comparison of `p` with `n * 2 ^ j`, as natural numbers. -/
def compared (p : GridPoint) (n : Nat) (j : Int) : Nat × Nat :=
  (p.coefficient * tenTo p.exponent.toNat * twoTo (-j).toNat,
    n * twoTo j.toNat * tenTo (-p.exponent).toNat)

/-- The lower end of the reals that round to `m * 2 ^ q`, in quarters of the unit. Below a power of
two the neighbour is half as far. -/
def lowerEnd (m : Nat) (q : Int) : Nat :=
  if m = twoTo 52 ∧ leastExponent < q then 4 * m - 1 else 4 * m - 2

def upperEnd (m : Nat) : Nat := 4 * m + 2

def roundsTo (m : Nat) (q : Int) (p : GridPoint) : Bool :=
  let (fromLow, low) := compared p (lowerEnd m q) (q - 2)
  let (toHigh, high) := compared p (upperEnd m) (q - 2)
  if m % 2 = 0 then low ≤ fromLow && toHigh ≤ high else low < fromLow && toHigh < high

/-- The number of places before the point: the least `k` with `m * 2 ^ q < 10 ^ k`. -/
def places (m : Nat) (q : Int) : Int :=
  let whole := m * tenTo 350 * twoTo q.toNat / twoTo (-q).toNat
  (digitsOf whole).length - 350

/-- The point at or just below `m * 2 ^ q` on the grid of `10 ^ exponent`. -/
def below (m : Nat) (q exponent : Int) : GridPoint :=
  let num := m * twoTo q.toNat * tenTo (-exponent).toNat
  ⟨num / (twoTo (-q).toNat * tenTo exponent.toNat), exponent⟩

/-- Of the two points next to `m * 2 ^ q` on a grid, the one that rounds to it: the nearer one if
both do, and at equal distance the even one. -/
def onGrid? (m : Nat) (q exponent : Int) : Option GridPoint :=
  let low := below m q exponent
  let high : GridPoint := ⟨low.coefficient + 1, exponent⟩
  match roundsTo m q low, roundsTo m q high with
  | true, true =>
    let (middle, value) := compared ⟨2 * low.coefficient + 1, exponent⟩ m (q + 1)
    if value < middle ∨ (value = middle ∧ low.coefficient % 2 = 0) then some low else some high
  | true, false => some low
  | false, true => some high
  | false, false => none

/-- The shortest grid point that rounds to `m * 2 ^ q`; were there none of seventeen digits, all
digits of the number itself. -/
def shortest (m : Nat) (q : Int) : GridPoint :=
  let k := places m q
  match (List.range 17).findSome? fun (n : Nat) => onGrid? m q (k - n - 1) with
  | some p => p
  | none => if 0 ≤ q then ⟨m * twoTo q.toNat, 0⟩ else ⟨m * Nat.pow 5 (-q).toNat, q⟩

end Binary64

end TelemetryLog
