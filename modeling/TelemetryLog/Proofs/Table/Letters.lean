import Mathlib.Data.List.Basic
import TelemetryLog.Number.Layout
import TelemetryLog.Proofs.Text.Digit
import TelemetryLog.Time.Stamp

/-! The letters of numbers and times. Whatever number a text writes, and whatever time, its letters
are printable ASCII and no comma is among them, so none of them ends a cell or a line. -/

namespace TelemetryLog

namespace Text

/-- The characters that end a line, in whatever convention it is read. -/
def isLineBreak (c : Char) : Bool :=
  inRanges [(0x0a, 0x0d), (0x1c, 0x1e), (0x85, 0x85), (0x2028, 0x2029)] c

/-- Printable ASCII, apart from the comma. -/
def isCellLetter (c : Char) : Bool := inRanges [(0x20, 0x2b), (0x2d, 0x7e)] c

theorem isCellLetter_iff {c : Char} :
    isCellLetter c = true ↔ 0x20 ≤ c.toNat ∧ c.toNat ≤ 0x7e ∧ c.toNat ≠ 0x2c := by
  simp only [isCellLetter, inRanges, List.any_cons, List.any_nil, Bool.or_eq_true, Bool.and_eq_true,
    decide_eq_true_eq, Bool.false_eq_true, or_false]
  omega

theorem isLineBreak_iff {c : Char} :
    isLineBreak c = true ↔ 0x0a ≤ c.toNat ∧ c.toNat ≤ 0x0d ∨ 0x1c ≤ c.toNat ∧ c.toNat ≤ 0x1e ∨
      c.toNat = 0x85 ∨ 0x2028 ≤ c.toNat ∧ c.toNat ≤ 0x2029 := by
  simp only [isLineBreak, inRanges, List.any_cons, List.any_nil, Bool.or_eq_true, Bool.and_eq_true,
    decide_eq_true_eq, Bool.false_eq_true, or_false]
  omega

theorem not_isLineBreak_of_isCellLetter {c : Char} (h : isCellLetter c = true) :
    isLineBreak c = false := by
  rw [Bool.eq_false_iff, ne_eq, isLineBreak_iff]
  have := isCellLetter_iff.mp h
  omega

theorem isCellLetter_of_isDigit {c : Char} (h : c.isDigit = true) : isCellLetter c = true := by
  have hDigit := Char.isDigit_iff_toNat.mp h
  simp only [Char.reduceToNat] at hDigit
  rw [isCellLetter_iff]
  omega

/-- A text of letters that end neither a cell nor a line. -/
def IsPlain (s : List Char) : Prop := ∀ c ∈ s, isCellLetter c = true

@[simp] theorem isPlain_nil : IsPlain [] := fun _ hMember => absurd hMember List.not_mem_nil

@[simp] theorem isPlain_cons {c : Char} {s : List Char} :
    IsPlain (c :: s) ↔ isCellLetter c = true ∧ IsPlain s :=
  List.forall_mem_cons

@[simp] theorem isPlain_append {s t : List Char} : IsPlain (s ++ t) ↔ IsPlain s ∧ IsPlain t :=
  List.forall_mem_append

theorem IsPlain.of_subset {s t : List Char} (hSubset : s ⊆ t) (h : IsPlain t) : IsPlain s :=
  fun c hMember => h c (hSubset hMember)

@[simp] theorem isPlain_digitsOf (n : Nat) : IsPlain (digitsOf n) :=
  fun _ hMember => isCellLetter_of_isDigit (isDigit_of_mem_digitsOf hMember)

@[simp] theorem isPlain_paddedDigits (width n : Nat) : IsPlain (paddedDigits width n) :=
  fun _ hMember => isCellLetter_of_isDigit (isDigit_of_mem_paddedDigits hMember)

@[simp] theorem isPlain_zeros (n : Nat) : IsPlain (List.replicate n '0') := by
  intro c hMember
  rw [List.eq_of_mem_replicate hMember]
  decide

@[simp] theorem isPlain_integerText (i : Int) : IsPlain (integerText i) := by
  rw [integerText]
  split
  · exact isPlain_cons.mpr ⟨by decide, isPlain_digitsOf _⟩
  · exact isPlain_digitsOf _

theorem isPlain_dropEndWhile {p : Char → Bool} {s : List Char} (h : IsPlain s) :
    IsPlain (dropEndWhile p s) := by
  refine h.of_subset ?_
  rw [dropEndWhile, List.reverse_subset]
  exact List.Subset.trans (List.dropWhile_suffix p).subset
    (List.reverse_subset.mpr (List.Subset.refl s))

end Text

open Text

namespace NumberLayout

theorem isPlain_positional {digits : List Char} (h : IsPlain digits) (point : Int) :
    IsPlain (positional digits point) := by
  rw [positional]
  split
  · simp [h, isCellLetter_iff]
  · split
    · simp [h, isCellLetter_iff]
    · have hTake := h.of_subset (List.take_subset point.toNat digits)
      have hDrop := h.of_subset (List.drop_subset point.toNat digits)
      simp [hTake, hDrop, isCellLetter_iff]

theorem isPlain_withExponent (layout : NumberLayout) {digits : List Char} (h : IsPlain digits)
    (exponent : Int) : IsPlain (layout.withExponent digits exponent) := by
  have hPower (sign : Char) (hSign : isCellLetter sign = true) :
      IsPlain ('e' :: sign :: paddedDigits layout.exponentWidth exponent.natAbs) :=
    isPlain_cons.mpr ⟨by decide, isPlain_cons.mpr ⟨hSign, isPlain_paddedDigits _ _⟩⟩
  refine isPlain_append.mpr ⟨?_, hPower _ (by split <;> decide)⟩
  split
  · obtain ⟨hFirst, hRest⟩ := isPlain_cons.mp h
    exact isPlain_cons.mpr ⟨hFirst, isPlain_cons.mpr ⟨by decide, hRest⟩⟩
  · exact h

theorem isPlain_write (layout : NumberLayout) (p : GridPoint) : IsPlain (layout.write p) := by
  have hDigits : IsPlain (dropEndWhile (· == '0') (digitsOf p.coefficient)) :=
    isPlain_dropEndWhile (isPlain_digitsOf p.coefficient)
  simp only [write]
  split
  · exact isPlain_positional (by simp [isCellLetter_iff]) 1
  · split
    · exact isPlain_positional hDigits _
    · exact layout.isPlain_withExponent hDigits _

end NumberLayout

@[simp] theorem Binary64.isPlain_chars (x : Binary64) : IsPlain x.chars := by
  have hSigned (negative : Bool) {s : List Char} (h : IsPlain s) : IsPlain (signed negative s) := by
    cases negative with
    | false => exact h
    | true => exact isPlain_cons.mpr ⟨by decide, h⟩
  cases x with
  | nan => simp [chars, isCellLetter_iff]
  | infinite negative => exact hSigned negative (by simp [isCellLetter_iff])
  | finite negative m q => exact hSigned negative (recordLayout.isPlain_write _)

@[simp] theorem WallTime.isPlain_logChars (w : WallTime) : IsPlain w.logChars := by
  simp [logChars, dateChars, clockChars, isCellLetter_iff]

end TelemetryLog
