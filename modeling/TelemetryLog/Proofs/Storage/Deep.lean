import TelemetryLog.Proofs.Storage.Furnish

/-! Directories that lie too deep to be made. Making a directory is given up for its depth exactly
when as many paths as the host makes at once, from its own upwards, are all found to miss what leads
to them, and there is one more above. -/

namespace TelemetryLog

theorem Text.mem_joinWith {c separator : Char} (h : c ≠ separator) {pieces : List (List Char)} :
    c ∈ joinWith [separator] pieces ↔ ∃ piece ∈ pieces, c ∈ piece := by
  induction pieces using joinWith.induct with
  | case1 => simp [joinWith]
  | case2 piece => simp [joinWith]
  | case3 piece rest hRest ih => simp [joinWith, ih, h]

namespace Path

/-- A path without its last `n` parts. -/
def upward (p : Path) (n : Nat) : Path := ⟨p.start, p.parts.take (p.parts.length - n)⟩

theorem upward_zero (p : Path) : p.upward 0 = p := by
  simp [upward]

theorem upward_succ {start : PathRoot} {name : String} {above : List String} {n : Nat} :
    upward ⟨start, (name :: above).reverse⟩ (n + 1) = upward ⟨start, above.reverse⟩ n := by
  simp only [upward, List.reverse_cons, List.length_append, List.length_singleton,
    Nat.add_sub_add_right]
  rw [List.take_append_of_le_length (Nat.sub_le _ _)]

theorem hasNul_iff {p : Path} : p.hasNul = true ↔ ∃ part ∈ p.parts, '\x00' ∈ part.toList := by
  have hJoined : '\x00' ∈ Text.joinWith ['/'] (p.parts.map String.toList) ↔
      ∃ part ∈ p.parts, '\x00' ∈ part.toList := by
    rw [Text.mem_joinWith (by decide)]
    simp
  have hRoot : '\x00' ∉ rootChars p.start := by
    cases p.start <;> decide
  rw [← hJoined, hasNul, List.contains_iff_mem, chars]
  split
  · rename_i hNone
    simp only [List.append_eq_nil_iff] at hNone
    rw [hNone.2]
    decide
  · simp [hRoot]

theorem hasNul_parent {p : Path} (h : p.hasNul = false) : p.parent.hasNul = false := by
  rw [← Bool.not_eq_true, hasNul_iff] at h ⊢
  rintro ⟨part, hPart, hNul⟩
  exact h ⟨part, (List.dropLast_subset _) hPart, hNul⟩

end Path

namespace Tree

variable {tree : Tree}

/-- A path and those above it, `levels` of them in all, lack what leads to them, and there is one
more above these. -/
def Misses (tree : Tree) (levels : Nat) (path : Path) : Prop :=
  levels < path.parts.length ∧ ∀ n < levels, tree.locate (path.upward n) = .error .missing

/-- A path lacks so many directories that they cannot be made one within another. -/
def MissesDeep [Host] (tree : Tree) (path : Path) : Prop := tree.Misses Host.directoryDepth path

theorem addDirectory_eq_missing {path : Path} :
    tree.addDirectory path = .error .missing ↔ tree.locate path = .error .missing := by
  rw [addDirectory]
  cases tree.locate path with
  | error cause => simp
  | ok here => cases hNode : tree.node? here <;> simp [hNode]

theorem acceptDirectory_ne_tooDeep (path : Path) (cause : StorageCause) :
    (tree.acceptDirectory path cause).2 ≠ .error .tooDeep := by
  rw [acceptDirectory]
  split <;> simp

theorem ensureLast_ne_tooDeep (path : Path) : (tree.ensureLast path).2 ≠ .error .tooDeep := by
  rw [ensureLast]
  split
  · simp
  · simp
  · exact acceptDirectory_ne_tooDeep _ _

theorem misses_succ {start : PathRoot} {levels : Nat} {name : String} {above : List String} :
    tree.Misses (levels + 1) ⟨start, (name :: above).reverse⟩ ↔
      tree.locate ⟨start, (name :: above).reverse⟩ = .error .missing ∧
        tree.Misses levels ⟨start, above.reverse⟩ := by
  simp only [Misses, List.length_reverse, List.length_cons, Nat.add_lt_add_iff_right]
  constructor
  · rintro ⟨hLength, hMissing⟩
    refine ⟨?_, hLength, fun n hn => ?_⟩
    · have hFirst := hMissing 0 (Nat.zero_lt_succ _)
      rwa [Path.upward_zero] at hFirst
    · have hNext := hMissing (n + 1) (Nat.succ_lt_succ hn)
      rwa [Path.upward_succ] at hNext
  · rintro ⟨hHere, hLength, hMissing⟩
    refine ⟨hLength, fun n hn => ?_⟩
    cases n with
    | zero => rwa [Path.upward_zero]
    | succ n =>
      rw [Path.upward_succ]
      exact hMissing n (Nat.lt_of_succ_lt_succ hn)

theorem ensureReversed_eq_tooDeep {start : PathRoot} {levels : Nat} {reversed : List String} :
    (tree.ensureReversed start levels reversed).2 = .error .tooDeep ↔
      tree.Misses levels ⟨start, reversed.reverse⟩ := by
  induction reversed generalizing levels with
  | nil => simp [ensureReversed, ensureLast_ne_tooDeep, Misses]
  | cons name above ih =>
    cases levels with
    | zero => simp [ensureReversed, Misses]
    | succ levels =>
      rw [misses_succ, ← addDirectory_eq_missing, ← ih]
      simp only [ensureReversed, Nat.add_one_ne_zero, if_false, Nat.add_sub_cancel]
      cases hAdd : tree.addDirectory ⟨start, (name :: above).reverse⟩ with
      | ok after => simp
      | error cause =>
        cases cause with
        | missing =>
          -- What is above decides, since the last step is never too deep.
          cases tree.ensureReversed start levels above with
          | mk between result => cases result <;> simp [ensureLast_ne_tooDeep]
        | _ => simp [acceptDirectory_ne_tooDeep]

theorem ensureDirectory_eq_tooDeep [Host] {path : Path} :
    (tree.ensureDirectory path).2 = .error .tooDeep ↔ tree.MissesDeep path := by
  rw [ensureDirectory, ensureReversed_eq_tooDeep, List.reverse_reverse]
  rfl

end Tree

end TelemetryLog
