import TelemetryLog.Proofs.Text.Digit
import TelemetryLog.Time.Stamp

/-! The text of a wall time in the log. The numbers of a wall time, from the year to the second, can
be read from its text; and as each number of a calendar time has its own width there, the texts of
two such times are in the order of the times. -/

namespace TelemetryLog.WallTime

open Text

/-- The numbers that a log tells of a wall time: all but the microseconds. -/
def fields (w : WallTime) : List Nat :=
  [w.date.year, w.date.month, w.date.day, w.hour, w.minute, w.second]

variable {a b : WallTime}

theorem logChars_eq (w : WallTime) :
    w.logChars = paddedDigits 4 w.date.year ++ '-' :: (paddedDigits 2 w.date.month ++
      '-' :: (paddedDigits 2 w.date.day ++ ' ' :: (paddedDigits 2 w.hour ++
        ':' :: (paddedDigits 2 w.minute ++ ':' :: paddedDigits 2 w.second)))) := by
  simp only [logChars, dateChars, clockChars, List.append_assoc, List.cons_append]

theorem splitOnP_logChars (w : WallTime) :
    w.logChars.splitOnP (fun c => !c.isDigit) =
      [paddedDigits 4 w.date.year, paddedDigits 2 w.date.month, paddedDigits 2 w.date.day,
        paddedDigits 2 w.hour, paddedDigits 2 w.minute, paddedDigits 2 w.second] := by
  have hDigits (width n : Nat) : ∀ c ∈ paddedDigits width n, (!c.isDigit) = false :=
    fun c hMember => by rw [isDigit_of_mem_paddedDigits hMember, Bool.not_true]
  have hNext (width n : Nat) {mark : Char} (hMark : (!mark.isDigit) = true) (rest : List Char) :=
    List.splitOnP_append_cons_of_forall_mem (hDigits width n) mark hMark rest
  rw [logChars_eq, hNext _ _ (by decide), hNext _ _ (by decide), hNext _ _ (by decide),
    hNext _ _ (by decide), hNext _ _ (by decide), List.splitOnP_eq_singleton (hDigits _ _)]

/-- The numbers of a wall time are those that its text has between its marks. -/
theorem fields_eq (w : WallTime) :
    w.fields = (w.logChars.splitOnP fun c => !c.isDigit).map (Nat.ofDigitChars 10 · 0) := by
  simp only [splitOnP_logChars, List.map_cons, List.map_nil, ofDigitChars_paddedDigits, fields]

theorem logChars_eq_iff : a.logChars = b.logChars ↔ a.fields = b.fields := by
  constructor
  · intro h
    rw [fields_eq, h, ← fields_eq]
  · intro h
    simp only [fields, List.cons.injEq, and_true] at h
    obtain ⟨hYear, hMonth, hDay, hHour, hMinute, hSecond⟩ := h
    simp only [logChars_eq, hYear, hMonth, hDay, hHour, hMinute, hSecond]

theorem IsValid.fields_lt (h : a.IsValid) :
    a.date.year < 10 ^ 4 ∧ a.date.month < 10 ^ 2 ∧ a.date.day < 10 ^ 2 ∧ a.hour < 10 ^ 2 ∧
      a.minute < 10 ^ 2 ∧ a.second < 10 ^ 2 := by
  obtain ⟨⟨-, hYear, -, hMonth, -, hDay⟩, hHour, hMinute, hSecond, -⟩ := h
  have hDays : Date.daysInMonth a.date.year a.date.month ≤ 31 := by
    unfold Date.daysInMonth
    split
    · split <;> decide
    · split <;> decide
  omega

theorem length_logChars (h : a.IsValid) : a.logChars.length = 19 := by
  obtain ⟨hYear, hMonth, hDay, hHour, hMinute, hSecond⟩ := h.fields_lt
  have hTwo {n : Nat} (hn : n < 10 ^ 2) : (paddedDigits 2 n).length = 2 :=
    length_paddedDigits (by decide) hn
  simp only [logChars_eq, List.length_append, List.length_cons,
    length_paddedDigits (by decide : 0 < 4) hYear, hTwo hMonth, hTwo hDay, hTwo hHour,
    hTwo hMinute, hTwo hSecond]

theorem compare_logChars (ha : a.IsValid) (hb : b.IsValid) :
    compare a.logChars b.logChars = compare a.fields b.fields := by
  obtain ⟨hYear, hMonth, hDay, hHour, hMinute, hSecond⟩ := ha.fields_lt
  obtain ⟨hYear', hMonth', hDay', hHour', hMinute', hSecond'⟩ := hb.fields_lt
  -- Two numbers of one width decide, and the rest after the same mark decides if they are equal.
  have hNext {width m n : Nat} (hWidth : 0 < width) (hm : m < 10 ^ width) (hn : n < 10 ^ width)
      (mark : Char) (rest rest' : List Char) :
      compare (paddedDigits width m ++ mark :: rest) (paddedDigits width n ++ mark :: rest') =
        (compare m n).then (compare rest rest') := by
    have hLength : (paddedDigits width m).length = (paddedDigits width n).length := by
      rw [length_paddedDigits hWidth hm, length_paddedDigits hWidth hn]
    rw [compare_append hLength, compare_paddedDigits hWidth hm hn, List.compare_cons_cons,
      Std.compare_self, Ordering.eq_then]
  simp only [logChars_eq, fields]
  rw [hNext (by decide) hYear hYear', hNext (by decide) hMonth hMonth',
    hNext (by decide) hDay hDay', hNext (by decide) hHour hHour',
    hNext (by decide) hMinute hMinute', compare_paddedDigits (by decide) hSecond hSecond']
  simp only [List.compare_cons_cons, Std.compare_self, Ordering.then_eq]

end TelemetryLog.WallTime
