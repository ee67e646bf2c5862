import Mathlib.Data.List.Basic
import TelemetryLog.Text.Split

/-! Splitting and joining are inverse to each other: the pieces of a text join to it again, and
pieces that do not hold the separator are those that their join is split into. -/

namespace TelemetryLog.Text

theorem splitAt_eq_splitOn (separator : Char) (s : List Char) :
    splitAt separator s = s.splitOn separator := by
  induction s with
  | nil => rfl
  | cons c rest ih =>
    rw [splitAt, List.splitOn_cons_eq_if_modifyHead, ih]
    by_cases h : c = separator
    · simp [h]
    · cases hPieces : rest.splitOn separator with
      | nil => exact absurd hPieces (List.splitOn_ne_nil separator rest)
      | cons piece pieces => simp [h]

theorem joinWith_eq_intercalate (separator : List Char) (pieces : List (List Char)) :
    joinWith separator pieces = separator.intercalate pieces := by
  induction pieces using joinWith.induct with
  | case1 => rfl
  | case2 piece => simp [joinWith]
  | case3 piece rest hRest ih =>
    rw [joinWith.eq_3 _ _ _ hRest, ih, List.intercalate_cons_of_ne_nil hRest]

theorem joinWith_splitAt (separator : Char) (s : List Char) :
    joinWith [separator] (splitAt separator s) = s := by
  rw [joinWith_eq_intercalate, splitAt_eq_splitOn, List.intercalate_splitOn]

theorem splitAt_joinWith {separator : Char} {pieces : List (List Char)} (hSome : pieces ≠ [])
    (hPieces : ∀ piece ∈ pieces, separator ∉ piece) :
    splitAt separator (joinWith [separator] pieces) = pieces := by
  rw [joinWith_eq_intercalate, splitAt_eq_splitOn, List.splitOn_intercalate separator hPieces hSome]

theorem not_mem_of_mem_splitAt {separator : Char} {s piece : List Char}
    (h : piece ∈ splitAt separator s) : separator ∉ piece := by
  induction s generalizing piece with
  | nil => simp_all [splitAt]
  | cons c rest ih =>
    rw [splitAt] at h
    split at h
    · rcases List.mem_cons.mp h with rfl | hRest
      · exact List.not_mem_nil
      · exact ih hRest
    · rename_i hOther
      split at h
      · obtain rfl := List.mem_singleton.mp h
        simp [Ne.symm hOther]
      · rename_i first pieces hPieces
        rcases List.mem_cons.mp h with rfl | hRest
        · have hFirst := ih (hPieces ▸ List.mem_cons_self)
          simp [hFirst, Ne.symm hOther]
        · exact ih (hPieces ▸ List.mem_cons_of_mem _ hRest)

end TelemetryLog.Text
