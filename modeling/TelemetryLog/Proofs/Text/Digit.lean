import Mathlib.Algebra.Group.Nat.Defs
import TelemetryLog.Text.Digit

/-! The digits of a number. They give back the number, with any zeros before them; and digits of one
width are in the order of the numbers that they write. -/

namespace TelemetryLog.Text

theorem isDigit_of_mem_digitsOf {n : Nat} {c : Char} (h : c ∈ digitsOf n) : c.isDigit = true :=
  Nat.isDigit_of_mem_toDigits (by decide) (by decide) h

theorem isDigit_of_mem_paddedDigits {width n : Nat} {c : Char} (h : c ∈ paddedDigits width n) :
    c.isDigit = true := by
  rcases List.mem_append.mp h with hZero | hDigit
  · rw [List.eq_of_mem_replicate hZero]
    rfl
  · exact isDigit_of_mem_digitsOf hDigit

theorem ofDigitChars_digitsOf (n : Nat) : Nat.ofDigitChars 10 (digitsOf n) 0 = n :=
  Nat.ofDigitChars_ten_toDigits

theorem ofDigitChars_paddedDigits (width n : Nat) :
    Nat.ofDigitChars 10 (paddedDigits width n) 0 = n := by
  rw [paddedDigits, Nat.ofDigitChars_append, Nat.ofDigitChars_replicate_zero, Nat.mul_zero,
    ofDigitChars_digitsOf]

theorem length_paddedDigits {width n : Nat} (hWidth : 0 < width) (h : n < 10 ^ width) :
    (paddedDigits width n).length = width := by
  have hDigits : (digitsOf n).length ≤ width :=
    (Nat.length_toDigits_le_iff (by decide) hWidth).mpr h
  rw [paddedDigits, List.length_append, List.length_replicate]
  omega

theorem integerText_injective {i j : Int} (h : integerText i = integerText j) : i = j := by
  have hSign (n : Nat) (rest : List Char) : digitsOf n ≠ '-' :: rest := fun hDigits =>
    absurd (isDigit_of_mem_digitsOf (hDigits ▸ List.mem_cons_self)) (by decide)
  have hNumber (m n : Nat) (hSame : digitsOf m = digitsOf n) : m = n := by
    rw [← ofDigitChars_digitsOf m, hSame, ofDigitChars_digitsOf]
  unfold integerText at h
  split at h <;> split at h
  · have := hNumber _ _ (List.cons.inj h).2
    omega
  · exact absurd h.symm (hSign _ _)
  · exact absurd h (hSign _ _)
  · have := hNumber _ _ h
    omega

theorem compare_append {s s' : List Char} (h : s.length = s'.length) (t t' : List Char) :
    compare (s ++ t) (s' ++ t') = (compare s s').then (compare t t') := by
  induction s generalizing s' with
  | nil =>
    obtain rfl : s' = [] := List.length_eq_zero_iff.mp h.symm
    rfl
  | cons c s ih =>
    cases s' with
    | nil => cases h
    | cons c' s' =>
      rw [List.cons_append, List.cons_append, List.compare_cons_cons, ih (Nat.succ.inj h),
        List.compare_cons_cons, Ordering.then_assoc]

theorem ofDigitChars_cons_eq (c : Char) (s : List Char) :
    Nat.ofDigitChars 10 (c :: s) 0 =
      10 ^ s.length * (c.toNat - '0'.toNat) + Nat.ofDigitChars 10 s 0 := by
  rw [Nat.ofDigitChars_cons, Nat.ofDigitChars_eq_ofDigitChars_zero, Nat.mul_zero, Nat.zero_add]

theorem mul_add_lt_mul_add {p a b x : Nat} (y : Nat) (h : a < b) (hx : x < p) :
    p * a + x < p * b + y := by
  have hStep : p * (a + 1) ≤ p * b := Nat.mul_le_mul_left p h
  rw [Nat.mul_succ] at hStep
  omega

theorem compare_mul_add {p x y : Nat} (a b : Nat) (hx : x < p) (hy : y < p) :
    compare (p * a + x) (p * b + y) = (compare a b).then (compare x y) := by
  rcases Nat.lt_trichotomy a b with h | rfl | h
  · rw [Nat.compare_eq_lt.mpr h, Nat.compare_eq_lt.mpr (mul_add_lt_mul_add y h hx)]
    rfl
  · simp [Nat.compare_eq_ite_lt]
  · rw [Nat.compare_eq_gt.mpr h, Nat.compare_eq_gt.mpr (mul_add_lt_mul_add x h hy)]
    rfl

theorem ofDigitChars_lt {s : List Char} (h : ∀ c ∈ s, c.isDigit = true) :
    Nat.ofDigitChars 10 s 0 < 10 ^ s.length := by
  induction s with
  | nil => decide
  | cons c s ih =>
    obtain ⟨hDigit, hRest⟩ := List.forall_mem_cons.mp h
    have hTen : c.toNat - '0'.toNat < 10 := by
      have := (Char.isDigit_iff_toNat.mp hDigit).2
      simp only [Char.reduceToNat] at this ⊢
      omega
    rw [ofDigitChars_cons_eq, List.length_cons, Nat.pow_succ]
    exact mul_add_lt_mul_add 0 hTen (ih hRest)

theorem compare_digit {c d : Char} (hc : c.isDigit = true) (hd : d.isDigit = true) :
    compare c d = compare (c.toNat - '0'.toNat) (d.toNat - '0'.toNat) := by
  have hcLeast := (Char.isDigit_iff_toNat.mp hc).1
  have hdLeast := (Char.isDigit_iff_toNat.mp hd).1
  have hLess : c < d ↔ c.toNat - '0'.toNat < d.toNat - '0'.toNat :=
    show c.toNat < d.toNat ↔ _ by omega
  have hEqual : c = d ↔ c.toNat - '0'.toNat = d.toNat - '0'.toNat := by
    rw [← Char.toNat_inj]
    omega
  change compareOfLessAndEq c d = compareOfLessAndEq (c.toNat - '0'.toNat) (d.toNat - '0'.toNat)
  unfold compareOfLessAndEq
  simp only [hLess, hEqual]

/-- As many digits compare, character by character, as the numbers that they write. -/
theorem compare_of_isDigit {s t : List Char} (hLength : s.length = t.length)
    (hs : ∀ c ∈ s, c.isDigit = true) (ht : ∀ c ∈ t, c.isDigit = true) :
    compare s t = compare (Nat.ofDigitChars 10 s 0) (Nat.ofDigitChars 10 t 0) := by
  induction s generalizing t with
  | nil =>
    obtain rfl : t = [] := List.length_eq_zero_iff.mp hLength.symm
    rfl
  | cons c s ih =>
    cases t with
    | nil => cases hLength
    | cons d t =>
      obtain ⟨hc, hs⟩ := List.forall_mem_cons.mp hs
      obtain ⟨hd, ht⟩ := List.forall_mem_cons.mp ht
      have hRest : s.length = t.length := Nat.succ.inj hLength
      have hLess := ofDigitChars_lt ht
      rw [← hRest] at hLess
      calc compare (c :: s) (d :: t)
        _ = (compare c d).then (compare s t) := List.compare_cons_cons
        _ = (compare (c.toNat - '0'.toNat) (d.toNat - '0'.toNat)).then
            (compare (Nat.ofDigitChars 10 s 0) (Nat.ofDigitChars 10 t 0)) := by
          rw [compare_digit hc hd, ih hRest hs ht]
        _ = compare (Nat.ofDigitChars 10 (c :: s) 0) (Nat.ofDigitChars 10 (d :: t) 0) := by
          rw [← compare_mul_add _ _ (ofDigitChars_lt hs) hLess, ofDigitChars_cons_eq,
            ofDigitChars_cons_eq, hRest]

theorem compare_paddedDigits {width m n : Nat} (hWidth : 0 < width) (hm : m < 10 ^ width)
    (hn : n < 10 ^ width) :
    compare (paddedDigits width m) (paddedDigits width n) = compare m n := by
  have hLength : (paddedDigits width m).length = (paddedDigits width n).length := by
    rw [length_paddedDigits hWidth hm, length_paddedDigits hWidth hn]
  rw [compare_of_isDigit hLength (fun _ => isDigit_of_mem_paddedDigits)
    (fun _ => isDigit_of_mem_paddedDigits), ofDigitChars_paddedDigits, ofDigitChars_paddedDigits]

end TelemetryLog.Text
