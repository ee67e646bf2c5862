import TelemetryLog.Number.Power

/-! Binary64 numbers, as exact fractions. A finite number is `m * 2 ^ q` with its sign, where `m`
has 53 bits or `q` is the least exponent. A quotient of natural numbers is rounded to the nearest
number, and a tie goes to the one whose `m` is even. -/

namespace TelemetryLog

inductive Binary64 where
  | nan
  | infinite (negative : Bool)
  | finite (negative : Bool) (m : Nat) (q : Int)
  deriving DecidableEq, Repr, Inhabited

namespace Binary64

def leastExponent : Int := -1074

def greatestExponent : Int := 971

def zero (negative : Bool) : Binary64 := .finite negative 0 leastExponent

/-- The natural number nearest to `num / den`; a tie goes to the even one. -/
def nearestEven (num den : Nat) : Nat :=
  let whole := num / den
  let twice := 2 * (num % den)
  if twice < den then whole
  else if den < twice then whole + 1
  else whole + whole % 2

/-- The quotient `num / den` over `2 ^ q`, again as numerator and denominator. -/
def overPower (num den : Nat) (q : Int) : Nat × Nat :=
  (num * twoTo (-q).toNat, den * twoTo q.toNat)

/-- The exponent at which `num / den` has 53 bits before the point, and no less than the least. -/
def exponentOf (num den : Nat) : Int :=
  let guess : Int := num.log2 - den.log2 - 52
  let (n, d) := overPower num den guess
  max leastExponent (if n < d * twoTo 52 then guess - 1 else guess)

/-- The number nearest to `num / den` with a sign; beyond the greatest finite one it is infinite. -/
def ofQuotient (negative : Bool) (num den : Nat) : Binary64 :=
  if num = 0 then zero negative
  else
    let q := exponentOf num den
    let (n, d) := overPower num den q
    let m := nearestEven n d
    let (m, q) := if m = twoTo 53 then (twoTo 52, q + 1) else (m, q)
    if greatestExponent < q then .infinite negative else .finite negative m q

def ofInt (i : Int) : Binary64 := ofQuotient (i < 0) i.natAbs 1

/-- A finite number as numerator and denominator, the denominator a power of two. -/
def fraction (negative : Bool) (m : Nat) (q : Int) : Int × Nat :=
  let magnitude : Int := m * twoTo q.toNat
  (if negative then -magnitude else magnitude, twoTo (-q).toNat)

def integer? : Binary64 → Option Int
  | .finite negative m q =>
    let (num, den) := fraction negative m q
    if num % den = 0 then some (num / den) else none
  | _ => none

end Binary64

end TelemetryLog
