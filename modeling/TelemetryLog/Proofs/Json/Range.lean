import TelemetryLog.Proofs.Json.Values
import Mathlib.Algebra.Group.Nat.Defs
import Mathlib.Tactic.Common

/-! The numbers of JSON texts. Whatever a text says, an integer in its value has 64 bits and every
other number is finite; so each of its numbers stands for a finite binary64 number. -/

namespace TelemetryLog

namespace Binary64

def IsFinite : Binary64 → Prop
  | .finite _ _ _ => True
  | _ => False

theorem exponentOf_one_le {num bits : Nat} (hNum : num ≠ 0) (h : num < 2 ^ bits) :
    exponentOf num 1 ≤ bits := by
  have hLog : num.log2 < bits := (Nat.log2_lt hNum).mpr h
  have hOne : Nat.log2 1 = 0 := by decide
  simp only [exponentOf, leastExponent, hOne]
  split <;> omega

theorem isFinite_ofQuotient {negative : Bool} {num den : Nat}
    (h : exponentOf num den < greatestExponent) : (ofQuotient negative num den).IsFinite := by
  fun_cases ofQuotient negative num den with
  | case1 => exact True.intro
  | case2 hZero q n d hFraction m m' q' hSettled hBeyond =>
    -- Rounding up adds no more than one to the exponent.
    have hLe : q' ≤ q + 1 := by
      by_cases hFull : m = twoTo 53
      · rw [if_pos hFull] at hSettled
        cases hSettled
        exact Int.le_refl _
      · rw [if_neg hFull] at hSettled
        cases hSettled
        omega
    omega
  | case3 => exact True.intro

theorem isFinite_ofInt {i : Int} (h : i.natAbs < 2 ^ 64) : (ofInt i).IsFinite := by
  by_cases hZero : i.natAbs = 0
  · rw [ofInt, hZero]
    exact True.intro
  · have hExponent := exponentOf_one_le hZero h
    refine isFinite_ofQuotient ?_
    rw [greatestExponent]
    omega

end Binary64

namespace Json

/-- The scalars of texts. -/
def ScalarInRange : Scalar → Prop
  | .int i => leastInteger ≤ i ∧ i ≤ greatestInteger
  | .number x => x.IsFinite
  | _ => True

/-- The values of texts. -/
inductive InRange : Value → Prop
  | scalar {s : Scalar} (h : ScalarInRange s) : InRange (.scalar s)
  | array {items : List Value} (h : ∀ item ∈ items, InRange item) : InRange (.array items)
  | object {members : List (Scalar × Value)} (h : ∀ m ∈ members, InRange m.2) :
    InRange (.object members)

theorem scalarInRange_finiteNumber? {x : Binary64} {s : Scalar} (h : finiteNumber? x = some s) :
    ScalarInRange s := by
  cases x with
  | finite negative m q => cases h; exact True.intro
  | nan | infinite => cases h

theorem scalarInRange_numberOf? {negative : Bool} {whole : List Nat} {fraction : Option (List Nat)}
    {exponent : Option Int} {s : Scalar} (h : numberOf? negative whole fraction exponent = some s) :
    ScalarInRange s := by
  rw [numberOf?.eq_def] at h
  split at h
  · obtain ⟨hRange, hEq⟩ | ⟨-, hNumber⟩ := ite_eq_iff.mp h
    · cases hEq
      exact hRange
    · exact scalarInRange_finiteNumber? hNumber
  · exact scalarInRange_finiteNumber? h

theorem scalarInRange_readNumber? {s rest : List Char} {scalar : Scalar}
    (h : readNumber? s = some (scalar, rest)) : ScalarInRange scalar := by
  rw [readNumber?.eq_def] at h
  simp only [Option.bind_eq_bind, Option.ite_none_right_eq_some, Option.bind_eq_some_iff] at h
  obtain ⟨-, _, -, _, -, number, hNumber, hEq⟩ := h
  cases hEq
  exact scalarInRange_numberOf? hNumber

theorem scalarInRange_readScalar? {s rest : List Char} {scalar : Scalar}
    (h : readScalar? s = some (scalar, rest)) : ScalarInRange scalar := by
  unfold readScalar? at h
  split at h
  case h_5 => exact scalarInRange_readNumber? h
  all_goals
    obtain ⟨_, -, hEq⟩ := Option.map_eq_some_iff.mp h
    cases hEq
    exact True.intro

theorem inRange_ofBytes? {bytes : List UInt8} {v : Value} (h : ofBytes? bytes = some v) :
    InRange v := by
  refine HoldsOfRead.ofBytes? ⟨fun hScalar => .scalar (scalarInRange_readScalar? hScalar), .array,
    fun hMembers => ?_⟩ h
  rw [Value.ofMembers]
  have hSet := @forall_setMembers InRange (∃ name, · = .text name) _ hMembers
  exact .object fun m hMember => (hSet m hMember).2

end Json

end TelemetryLog
