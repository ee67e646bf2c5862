import Mathlib.Logic.Relation
import TelemetryLog.Proofs.Text.Casing
import TelemetryLog.Record.Key

/-! The folded key is a canonical form of the spellings of a key: it is folded already, holds no
separator, and stays the same when separators come or go and when ASCII letters change their case.
The folded key of ASCII characters is itself one of the spellings. -/

namespace TelemetryLog

open Text

/-- One change in the spelling of a key: an underscore or a hyphen comes or goes, or an ASCII letter
changes its case. -/
inductive KeyEdit : List Char → List Char → Prop
  | insert (before after : List Char) {c : Char} (hSeparator : c = '_' ∨ c = '-') :
      KeyEdit (before ++ after) (before ++ c :: after)
  | delete (before after : List Char) {c : Char} (hSeparator : c = '_' ∨ c = '-') :
      KeyEdit (before ++ c :: after) (before ++ after)
  | recase (before after : List Char) {c c' : Char} (hLetter : c.toLower = c'.toLower) :
      KeyEdit (before ++ c :: after) (before ++ c' :: after)

/-- Any number of changes, one after another. -/
abbrev KeyEdits : List Char → List Char → Prop := Relation.ReflTransGen KeyEdit

section Separators

variable {c : Char} {key : List Char}

theorem isKeySeparator_iff : isKeySeparator c = true ↔ c = '_' ∨ c = '-' := by
  simp [isKeySeparator]

theorem isKeySeparator_iff_toNat :
    isKeySeparator c = true ↔ c.toNat = '_'.toNat ∨ c.toNat = '-'.toNat := by
  rw [isKeySeparator_iff, Char.toNat_inj, Char.toNat_inj]

theorem isKeySeparator_toLower (c : Char) : isKeySeparator c.toLower = isKeySeparator c := by
  rw [Bool.eq_iff_iff, isKeySeparator_iff_toNat, isKeySeparator_iff_toNat, toNat_toLower]
  simp only [Char.reduceToNat]
  split <;> omega

theorem not_isKeySeparator_of_mem_foldKey (h : c ∈ foldKey key) : isKeySeparator c = false := by
  refine Bool.eq_false_iff.mpr fun hSeparator => ?_
  have hLow : c.toNat < 'a'.toNat := by
    rcases isKeySeparator_iff.mp hSeparator with rfl | rfl <;> decide
  have hKept := (List.mem_filter.mp (mem_of_mem_small h hLow)).2
  simp [hSeparator] at hKept

/-- The keys that are folded already are those without separators and without capitals. -/
theorem foldKey_eq_self_iff :
    foldKey key = key ↔ ∀ c ∈ key, isKeySeparator c = false ∧ IsSmall c := by
  constructor
  · intro h c hc
    rw [← h] at hc
    exact ⟨not_isKeySeparator_of_mem_foldKey hc, isSmall_of_mem_small hc⟩
  · intro h
    have hFilter : key.filter (fun c => !isKeySeparator c) = key :=
      List.filter_eq_self.mpr fun c hc => by simp [(h c hc).1]
    rw [foldKey, hFilter]
    exact small_eq_self_iff.mpr fun c hc => (h c hc).2

theorem foldKey_foldKey (key : List Char) : foldKey (foldKey key) = foldKey key :=
  foldKey_eq_self_iff.mpr fun _ hc =>
    ⟨not_isKeySeparator_of_mem_foldKey hc, isSmall_of_mem_small hc⟩

theorem foldKey_separator (before after : List Char) (hSeparator : c = '_' ∨ c = '-') :
    foldKey (before ++ c :: after) = foldKey (before ++ after) := by
  have h := isKeySeparator_iff.mpr hSeparator
  simp [foldKey, h]

theorem filter_asciiSmall (key : List Char) :
    (asciiSmall key).filter (fun c => !isKeySeparator c) =
      asciiSmall (key.filter fun c => !isKeySeparator c) := by
  simp [asciiSmall, List.filter_map, Function.comp_def, isKeySeparator_toLower]

theorem foldKey_asciiSmall (key : List Char) : foldKey (asciiSmall key) = foldKey key := by
  rw [foldKey, filter_asciiSmall, small_asciiSmall]
  rfl

end Separators

section Edits

variable {key key' : List Char}

/-- A change in the spelling leaves the folded key as it is. -/
theorem KeyEdit.foldKey_eq (h : KeyEdit key key') : foldKey key' = foldKey key := by
  cases h with
  | insert before after hSeparator => exact foldKey_separator before after hSeparator
  | delete before after hSeparator => exact (foldKey_separator before after hSeparator).symm
  | @recase before after c c' hLetter =>
    -- What stands around the letter may be a sigma, so the whole keys are compared in small letters.
    have hSmall : asciiSmall (before ++ c' :: after) = asciiSmall (before ++ c :: after) := by
      simp [asciiSmall, hLetter]
    rw [← foldKey_asciiSmall, hSmall, foldKey_asciiSmall]

theorem KeyEdits.foldKey_eq (h : KeyEdits key key') : foldKey key' = foldKey key := by
  induction h with
  | refl => rfl
  | tail _ hEdit ih => exact hEdit.foldKey_eq.trans ih

theorem KeyEdit.cons (c : Char) (h : KeyEdit key key') : KeyEdit (c :: key) (c :: key') := by
  cases h with
  | insert before after hSeparator => exact .insert (c :: before) after hSeparator
  | delete before after hSeparator => exact .delete (c :: before) after hSeparator
  | recase before after hLetter => exact .recase (c :: before) after hLetter

theorem KeyEdits.cons (c : Char) (h : KeyEdits key key') : KeyEdits (c :: key) (c :: key') :=
  h.lift (c :: ·) fun _ _ => KeyEdit.cons c

/-- Every key can be respelled in small letters and without separators. -/
theorem keyEdits_asciiSmall (key : List Char) :
    KeyEdits key (asciiSmall (key.filter fun c => !isKeySeparator c)) := by
  -- From the front on, a separator goes and any other character becomes small.
  induction key with
  | nil => exact .refl
  | cons c rest ih =>
    cases hSeparator : isKeySeparator c with
    | true =>
      rw [List.filter_cons_of_neg (by simp [hSeparator])]
      exact .head (.delete [] rest (isKeySeparator_iff.mp hSeparator)) ih
    | false =>
      rw [List.filter_cons_of_pos (by simp [hSeparator])]
      exact .head (.recase [] rest (toLower_toLower c).symm) (KeyEdits.cons c.toLower ih)

theorem keyEdits_foldKey (hAscii : ∀ c ∈ key, c.toNat < 0x80) : KeyEdits key (foldKey key) := by
  rw [foldKey, small, smallFrom_ascii]
  · exact keyEdits_asciiSmall key
  · exact fun c hc => hAscii c (List.mem_of_mem_filter hc)

end Edits

/-- The folded key is the canonical form of the spellings of a key: folding it again changes
nothing, it holds no underscore and no hyphen, and all spellings have it in common. Of a key of
ASCII characters it is one of the spellings. -/
theorem foldKey_canonical (key : List Char) :
    foldKey (foldKey key) = foldKey key ∧ '_' ∉ foldKey key ∧ '-' ∉ foldKey key ∧
      (∀ key', KeyEdits key key' → foldKey key' = foldKey key) ∧
      ((∀ c ∈ key, c.toNat < 0x80) → KeyEdits key (foldKey key)) := by
  have hNone {c : Char} (hSeparator : isKeySeparator c = true) : c ∉ foldKey key := fun hc => by
    rw [not_isKeySeparator_of_mem_foldKey hc] at hSeparator
    cases hSeparator
  refine ⟨foldKey_foldKey key, hNone rfl, hNone rfl, ?_, keyEdits_foldKey⟩
  intro key' hEdits
  exact hEdits.foldKey_eq

/-- A capital sigma keeps its final form when an underscore goes, a letter before it becomes small
and a hyphen comes; and a key as the loggers write it can be respelled as the name of its field. -/
theorem foldKey_canonical_sigma :
    foldKey ['a', capitalSigma, '-'] = foldKey ['A', '_', capitalSigma] ∧
      foldKey ['A', '_', capitalSigma] = ['a', '\u03c2'] ∧
      KeyEdits "Set_Table".toList "settable".toList := by
  have hDelete : KeyEdit ['A', '_', capitalSigma] ['A', capitalSigma] :=
    .delete ['A'] [capitalSigma] (.inl rfl)
  have hRecase : KeyEdit ['A', capitalSigma] ['a', capitalSigma] :=
    .recase [] [capitalSigma] (by decide)
  have hInsert : KeyEdit ['a', capitalSigma] ['a', capitalSigma, '-'] :=
    .insert ['a', capitalSigma] [] (.inr rfl)
  have hEdits : KeyEdits ['A', '_', capitalSigma] ['a', capitalSigma, '-'] :=
    .head hDelete (.head hRecase (.single hInsert))
  have hFold : foldKey "Set_Table".toList = "settable".toList := by decide +kernel
  obtain ⟨-, -, -, hSame, -⟩ := foldKey_canonical ['A', '_', capitalSigma]
  obtain ⟨-, -, -, -, hReached⟩ := foldKey_canonical "Set_Table".toList
  refine ⟨hSame _ hEdits, by decide +kernel, ?_⟩
  rw [← hFold]
  exact hReached (by simp)

end TelemetryLog
