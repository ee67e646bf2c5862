import Mathlib.Data.List.Forall2
import TelemetryLog.Proofs.Text.Utf8
import TelemetryLog.Text.Casing

/-! Small letters. No run of capitals arrives at a capital, so that a text in small letters stays as
it is, whatever stands around a character; nothing that comes about stands before the letter `a`;
and ASCII capitals may be made small beforehand, since a capital sigma sees no difference. -/

namespace TelemetryLog.Text

open Utf8 (toNat_ofNat)

section Runs

variable {run other : CaseRun} {n : Nat}

theorem CaseRun.covers_iff :
    run.covers n = true ↔ run.first ≤ n ∧ n ≤ run.last ∧ (n - run.first) % run.step = 0 := by
  simp [covers, and_assoc]

/-- The run that leads back from where `run` arrives. -/
def CaseRun.back (run : CaseRun) : CaseRun :=
  ⟨(run.first + run.shift).toNat, (run.last + run.shift).toNat, run.step, -run.shift⟩

theorem CaseRun.covers_back (hFirst : 0 < run.back.first) (h : run.covers n = true) :
    run.back.covers (n + run.shift).toNat = true := by
  obtain ⟨hLow, hHigh, hStep⟩ := covers_iff.mp h
  have hPlace : (n + run.shift).toNat - run.back.first = n - run.first := by
    simp only [back] at hFirst ⊢
    omega
  refine covers_iff.mpr ⟨?_, ?_, ?_⟩
  · simp only [back]
    omega
  · simp only [back]
    omega
  · rw [hPlace]
    exact hStep

/-- Whether every code point that the run covers is as even or odd as the first one. -/
def CaseRun.hasParity (run : CaseRun) : Bool := run.step == 2 || run.first == run.last

theorem CaseRun.mod_two_eq (hParity : run.hasParity = true) (h : run.covers n = true) :
    n % 2 = run.first % 2 := by
  obtain ⟨hLow, hHigh, hStep⟩ := covers_iff.mp h
  rw [hasParity, Bool.or_eq_true, beq_iff_eq, beq_iff_eq] at hParity
  rcases hParity with hTwo | hSingle
  · rw [hTwo] at hStep
    omega
  · obtain rfl : n = run.first := by omega
    rfl

/-- Whether one of two runs ends before the other begins, or one has even code points only and the
other one odd ones, as where each small letter stands behind its capital. -/
def CaseRun.isApart (run other : CaseRun) : Bool :=
  run.last.blt other.first || other.last.blt run.first ||
    (run.hasParity && other.hasParity && run.first % 2 != other.first % 2)

theorem CaseRun.covers_eq_false_of_isApart (h : run.isApart other = true)
    (hCovers : run.covers n = true) : other.covers n = false := by
  refine Bool.eq_false_iff.mpr fun hOther => ?_
  obtain ⟨hLow, hHigh, -⟩ := covers_iff.mp hCovers
  obtain ⟨hLow', hHigh', -⟩ := covers_iff.mp hOther
  simp only [isApart, Bool.or_eq_true, Bool.and_eq_true, Nat.blt_eq, bne_iff_ne] at h
  rcases h with (hBefore | hBehind) | ⟨⟨hParity, hParity'⟩, hUnlike⟩
  · omega
  · omega
  · exact hUnlike ((mod_two_eq hParity hCovers).symm.trans (mod_two_eq hParity' hOther))

theorem mapCase_cases (runs : List CaseRun) (c : Char) :
    (∀ run ∈ runs, run.covers c.toNat = false) ∧ mapCase runs c = c ∨
      ∃ run ∈ runs, run.covers c.toNat = true ∧
        mapCase runs c = Char.ofNat (c.toNat + run.shift).toNat := by
  rw [mapCase]
  cases hFind : runs.find? (·.covers c.toNat) with
  | none =>
    refine .inl ⟨fun run hRun => ?_, rfl⟩
    exact Bool.eq_false_iff.mpr (List.find?_eq_none.mp hFind run hRun)
  | some run =>
    have hCovers : run.covers c.toNat = true := by simpa using List.find?_some hFind
    exact .inr ⟨run, List.mem_of_find?_eq_some hFind, hCovers, rfl⟩

theorem mapCase_of_uncovered {runs : List CaseRun} {c : Char}
    (h : ∀ run ∈ runs, run.covers c.toNat = false) : mapCase runs c = c := by
  rcases mapCase_cases runs c with ⟨-, hSame⟩ | ⟨run, hRun, hCovers, -⟩
  · exact hSame
  · rw [h run hRun] at hCovers
    cases hCovers

/-- No run arrives at a capital. -/
theorem isApart_smallRuns :
    (smallRuns.all fun run => smallRuns.all run.back.isApart) = true := by decide +kernel

/-- Where the runs of capitals arrive there are characters, from the letter `a` on, and the capital
with a small form of its own is not among them. -/
theorem back_smallRuns : ∀ run ∈ smallRuns, 'a'.toNat ≤ run.back.first ∧
    (run.back.last < 0xd800 ∨ 0xdfff < run.back.first ∧ run.back.last < 0x110000) ∧
    run.back.covers dottedCapitalI.toNat = false := by decide +kernel

theorem covers_back_of_mem {c : Char} (hRun : run ∈ smallRuns)
    (hCovers : run.covers c.toNat = true) :
    run.back.covers (Char.ofNat (c.toNat + run.shift).toNat).toNat = true := by
  obtain ⟨hLetter, hValid, -⟩ := back_smallRuns run hRun
  have hBack := CaseRun.covers_back (Nat.lt_of_lt_of_le (by decide) hLetter) hCovers
  obtain ⟨hLow, hHigh, -⟩ := CaseRun.covers_iff.mp hBack
  have hChar : (c.toNat + run.shift).toNat.isValidChar := by
    unfold Nat.isValidChar
    omega
  rw [toNat_ofNat hChar]
  exact hBack

end Runs

section Forms

variable {c d : Char} {s : List Char} {afterCased : Bool}

/-- A character that is no capital: no run moves it, and it has no longer form. -/
structure IsSmall (c : Char) : Prop where
  uncovered : ∀ run ∈ smallRuns, run.covers c.toNat = false
  ne_dotted : c ≠ dottedCapitalI

theorem IsSmall.smallForm_eq (h : IsSmall c) : smallForm c = [c] := by
  rw [smallForm, if_neg h.ne_dotted, mapCase_of_uncovered h.uncovered]

theorem IsSmall.ne_sigma (h : IsSmall c) : c ≠ capitalSigma := by
  rintro rfl
  have hSigma : ∃ run ∈ smallRuns, run.covers capitalSigma.toNat = true := by decide +kernel
  obtain ⟨run, hRun, hCovers⟩ := hSigma
  rw [h.uncovered run hRun] at hCovers
  cases hCovers

theorem isSmall_of_covers {run : CaseRun} (hRun : run ∈ smallRuns)
    (hCovers : run.covers c.toNat = true) :
    IsSmall (Char.ofNat (c.toNat + run.shift).toNat) := by
  have hBack := covers_back_of_mem hRun hCovers
  refine ⟨fun other hOther => ?_, fun hDotted => ?_⟩
  -- It lies in the run that leads back, and this one is apart from every run of capitals.
  · have hApart := List.all_eq_true.mp isApart_smallRuns run hRun
    exact CaseRun.covers_eq_false_of_isApart (List.all_eq_true.mp hApart other hOther) hBack
  · rw [hDotted, (back_smallRuns run hRun).2.2] at hBack
    cases hBack

theorem isSmall_of_mem_smallForm (h : c ∈ smallForm d) : IsSmall c := by
  rw [smallForm] at h
  split at h
  · rcases List.mem_pair.mp h with rfl | rfl
    · exact ⟨by decide +kernel, by decide⟩
    · exact ⟨by decide +kernel, by decide⟩
  · rename_i hDotted
    obtain rfl := List.mem_singleton.mp h
    rcases mapCase_cases smallRuns d with ⟨hUncovered, hSame⟩ | ⟨run, hRun, hCovers, hMoved⟩
    · rw [hSame]
      exact ⟨hUncovered, hDotted⟩
    · rw [hMoved]
      exact isSmall_of_covers hRun hCovers

theorem isSmall_smallSigma (rest : List Char) : IsSmall (smallSigma afterCased rest) := by
  rw [smallSigma]
  split
  · exact ⟨by decide +kernel, by decide⟩
  · exact ⟨by decide +kernel, by decide⟩

/-- What comes about before the letter `a` was there. -/
theorem eq_of_mem_smallForm (h : c ∈ smallForm d) (hLow : c.toNat < 'a'.toNat) : c = d := by
  rw [smallForm] at h
  split at h
  · rcases List.mem_pair.mp h with rfl | rfl
    · exact absurd hLow (by decide)
    · exact absurd hLow (by decide)
  · obtain rfl := List.mem_singleton.mp h
    rcases mapCase_cases smallRuns d with ⟨-, hSame⟩ | ⟨run, hRun, hCovers, hMoved⟩
    · exact hSame
    · have hFirst := (CaseRun.covers_iff.mp (covers_back_of_mem hRun hCovers)).1
      have hLetter := (back_smallRuns run hRun).1
      rw [hMoved] at hLow
      omega

/-- A character of a text in small letters is a small sigma that stands for a capital one, or it is
of the small form of a character. -/
theorem mem_smallFrom (h : c ∈ smallFrom afterCased s) :
    (∃ before rest, c = smallSigma before rest) ∨ ∃ d ∈ s, c ∈ smallForm d := by
  induction s generalizing afterCased with
  | nil => cases h
  | cons d rest ih =>
    rw [smallFrom] at h
    rcases List.mem_append.mp h with hHead | hRest
    · split at hHead
      · exact .inl ⟨_, _, List.mem_singleton.mp hHead⟩
      · exact .inr ⟨d, List.mem_cons_self, hHead⟩
    · rcases ih hRest with hSigma | ⟨e, hMem, hForm⟩
      · exact .inl hSigma
      · exact .inr ⟨e, List.mem_cons_of_mem _ hMem, hForm⟩

theorem isSmall_of_mem_small (h : c ∈ small s) : IsSmall c := by
  rcases mem_smallFrom h with ⟨before, rest, rfl⟩ | ⟨d, -, hForm⟩
  · exact isSmall_smallSigma rest
  · exact isSmall_of_mem_smallForm hForm

theorem mem_of_mem_small (h : c ∈ small s) (hLow : c.toNat < 'a'.toNat) : c ∈ s := by
  rcases mem_smallFrom h with ⟨before, rest, rfl⟩ | ⟨d, hMem, hForm⟩
  · rw [smallSigma] at hLow
    split at hLow
    · exact absurd hLow (by decide)
    · exact absurd hLow (by decide)
  · rw [eq_of_mem_smallForm hForm hLow]
    exact hMem

theorem smallFrom_of_isSmall (h : ∀ c ∈ s, IsSmall c) (afterCased : Bool) :
    smallFrom afterCased s = s := by
  induction s generalizing afterCased with
  | nil => rfl
  | cons c rest ih =>
    obtain ⟨hHead, hRest⟩ := List.forall_mem_cons.mp h
    rw [smallFrom, if_neg hHead.ne_sigma, hHead.smallForm_eq, ih hRest]
    rfl

/-- The texts that stay as they are when they are made small are those without capitals. -/
theorem small_eq_self_iff : small s = s ↔ ∀ c ∈ s, IsSmall c := by
  constructor
  · intro h c hc
    rw [← h] at hc
    exact isSmall_of_mem_small hc
  · intro h
    exact smallFrom_of_isSmall h false

end Forms

section Ascii

variable {c : Char}

/-- Characters that nothing tells apart when a text is made small. -/
structure SameCasing (c d : Char) : Prop where
  form : smallForm c = smallForm d
  sigma : c = capitalSigma ↔ d = capitalSigma
  cased : isCased c = isCased d
  ignorable : isCaseIgnorable c = isCaseIgnorable d

theorem SameCasing.refl (c : Char) : SameCasing c c := ⟨rfl, Iff.rfl, rfl, rfl⟩

theorem startsCased_congr {s t : List Char} (h : List.Forall₂ SameCasing s t) :
    startsCased s = startsCased t := by
  induction h with
  | nil => rfl
  | cons hHead _ ih => rw [startsCased, startsCased, hHead.ignorable, hHead.cased, ih]

theorem smallFrom_congr {s t : List Char} (h : List.Forall₂ SameCasing s t) (afterCased : Bool) :
    smallFrom afterCased s = smallFrom afterCased t := by
  induction h generalizing afterCased with
  | nil => rfl
  | cons hHead hRest ih =>
    simp only [smallFrom, smallSigma, hHead.form, hHead.sigma, hHead.cased, hHead.ignorable,
      startsCased_congr hRest, ih]

theorem inRanges_iff {ranges : List (Nat × Nat)} {c : Char} :
    inRanges ranges c = true ↔ ∃ range ∈ ranges, range.1 ≤ c.toNat ∧ c.toNat ≤ range.2 := by
  simp [inRanges]

def IsAsciiLetter (c : Char) : Prop :=
  0x41 ≤ c.toNat ∧ c.toNat ≤ 0x5a ∨ 0x61 ≤ c.toNat ∧ c.toNat ≤ 0x7a

theorem IsAsciiLetter.cased (h : IsAsciiLetter c) : isCased c = true := by
  rcases h with hCapital | hSmall
  · exact inRanges_iff.mpr ⟨(0x41, 0x5a), by decide, hCapital⟩
  · exact inRanges_iff.mpr ⟨(0x61, 0x7a), by decide, hSmall⟩

theorem IsAsciiLetter.not_ignorable (h : IsAsciiLetter c) : isCaseIgnorable c = false := by
  have hApart : ∀ range ∈ caseIgnorableRanges, range.2 < 0x41 ∨ 0x5a < range.1 ∧ range.2 < 0x61 ∨
      0x7a < range.1 := by decide +kernel
  refine Bool.eq_false_iff.mpr fun hIgnorable => ?_
  obtain ⟨range, hRange, hLow, hHigh⟩ := inRanges_iff.mp hIgnorable
  have := hApart range hRange
  rcases h with hCapital | hSmall <;> omega

theorem toNat_toLower (c : Char) :
    c.toLower.toNat = if 0x41 ≤ c.toNat ∧ c.toNat ≤ 0x5a then c.toNat + 32 else c.toNat := by
  by_cases hCapital : 0x41 ≤ c.toNat ∧ c.toNat ≤ 0x5a
  · have hMoved : c.toLower.val = c.val + 32 := congrArg Char.val (dif_pos hCapital)
    have hCode : c.val.toNat = c.toNat := rfl
    rw [if_pos hCapital, ← Char.toNat_val, hMoved, UInt32.toNat_add, hCode]
    change (c.toNat + 32) % 2 ^ 32 = c.toNat + 32
    omega
  · have hSame : c.toLower = c := dif_neg hCapital
    rw [if_neg hCapital, hSame]

theorem toLower_eq_self (h : ¬ (0x41 ≤ c.toNat ∧ c.toNat ≤ 0x5a)) : c.toLower = c := by
  rw [← Char.toNat_inj, toNat_toLower, if_neg h]

theorem toLower_toLower (c : Char) : c.toLower.toLower = c.toLower := by
  refine toLower_eq_self ?_
  rw [toNat_toLower]
  split <;> omega

theorem ne_sigma_of_ascii (h : c.toNat < 0x80) : c ≠ capitalSigma := by
  rintro rfl
  exact absurd h (by decide)

theorem smallForm_ascii (h : c.toNat < 0x80) : smallForm c = [c.toLower] := by
  have hDotted : c ≠ dottedCapitalI := by
    rintro rfl
    exact absurd h (by decide)
  -- Of the runs of capitals only one begins among the ASCII characters.
  have hRuns : ∀ run ∈ smallRuns, run = ⟨0x41, 0x5a, 1, 32⟩ ∨ 0x80 ≤ run.first := by decide +kernel
  rw [smallForm, if_neg hDotted]
  rcases mapCase_cases smallRuns c with ⟨hUncovered, hSame⟩ | ⟨run, hRun, hCovers, hMoved⟩
  · have hLetters := hUncovered ⟨0x41, 0x5a, 1, 32⟩ List.mem_cons_self
    rw [hSame, toLower_eq_self]
    rintro ⟨hLow, hHigh⟩
    simp [CaseRun.covers, hLow, hHigh, Nat.mod_one] at hLetters
  · obtain ⟨hLow, hHigh, -⟩ := CaseRun.covers_iff.mp hCovers
    rcases hRuns run hRun with rfl | hFar
    · have hChar : (c.toNat + 32).isValidChar := .inl (by omega)
      have hLower : Char.ofNat (c.toNat + 32) = c.toLower := by
        rw [← Char.toNat_inj, toNat_ofNat hChar, toNat_toLower, if_pos ⟨hLow, hHigh⟩]
      rw [hMoved, ← hLower]
      rfl
    · omega

theorem sameCasing_toLower (c : Char) : SameCasing c.toLower c := by
  by_cases hCapital : 0x41 ≤ c.toNat ∧ c.toNat ≤ 0x5a
  -- Both forms of a letter are cased, so a sigma beside it looks no further than to it.
  · have hCode : c.toLower.toNat = c.toNat + 32 := by rw [toNat_toLower, if_pos hCapital]
    have hLetter : IsAsciiLetter c := .inl hCapital
    have hLetter' : IsAsciiLetter c.toLower := .inr (by omega)
    have hForm : smallForm c.toLower = [c.toLower] := by
      rw [smallForm_ascii (by omega), toLower_toLower]
    exact {
      form := hForm.trans (smallForm_ascii (by omega)).symm
      sigma := iff_of_false (ne_sigma_of_ascii (by omega)) (ne_sigma_of_ascii (by omega))
      cased := hLetter'.cased.trans hLetter.cased.symm
      ignorable := hLetter'.not_ignorable.trans hLetter.not_ignorable.symm }
  · rw [toLower_eq_self hCapital]
    exact .refl c

/-- The case of the ASCII letters makes no difference to the small letters of a text. -/
theorem small_asciiSmall (s : List Char) : small (asciiSmall s) = small s := by
  refine smallFrom_congr (List.forall₂_map_left_iff.mpr ?_) false
  exact List.forall₂_same.mpr fun c _ => sameCasing_toLower c

theorem smallFrom_ascii {s : List Char} (h : ∀ c ∈ s, c.toNat < 0x80) (afterCased : Bool) :
    smallFrom afterCased s = asciiSmall s := by
  induction s generalizing afterCased with
  | nil => rfl
  | cons c rest ih =>
    obtain ⟨hHead, hRest⟩ := List.forall_mem_cons.mp h
    rw [smallFrom, if_neg (ne_sigma_of_ascii hHead), smallForm_ascii hHead, ih hRest]
    rfl

end Ascii

end TelemetryLog.Text
