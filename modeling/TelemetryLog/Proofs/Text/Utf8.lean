import Mathlib.Data.List.Basic
import Mathlib.Tactic.Common
import TelemetryLog.Text.Utf8

/-! Well-formed sequences. The bytes of a character are those of the library's encoding. They are
told from other bytes by their bits: a first byte announces how many bytes follow it, each of them
adds six bits to the code, and the code has to be that of a character and to need so many bytes.
A sequence is read exactly where one starts, and where none does, one of five faults says why. -/

namespace TelemetryLog.Text.Utf8

/-- A byte that goes on with a sequence. -/
def IsContinuation (b : UInt8) : Prop := 0x80 ≤ b.toNat ∧ b.toNat < 0xc0

instance : DecidablePred IsContinuation := fun b => by unfold IsContinuation; infer_instance

/-- The bytes `b :: more` have the bits of a code, be it that of a character or not. -/
inductive Spells : UInt8 → List UInt8 → Nat → Prop
  | one {b : UInt8} {code : Nat} (hFirst : b.toNat < 0x80) (hCode : code = b.toNat) :
    Spells b [] code
  | two {b x : UInt8} {code : Nat} (hFirst : 0xc0 ≤ b.toNat ∧ b.toNat < 0xe0)
    (hx : IsContinuation x) (hCode : code = 64 * (b.toNat - 0xc0) + (x.toNat - 0x80)) :
    Spells b [x] code
  | three {b x y : UInt8} {code : Nat} (hFirst : 0xe0 ≤ b.toNat ∧ b.toNat < 0xf0)
    (hx : IsContinuation x) (hy : IsContinuation y)
    (hCode : code = 4096 * (b.toNat - 0xe0) + 64 * (x.toNat - 0x80) + (y.toNat - 0x80)) :
    Spells b [x, y] code
  | four {b x y z : UInt8} {code : Nat} (hFirst : 0xf0 ≤ b.toNat ∧ b.toNat < 0xf8)
    (hx : IsContinuation x) (hy : IsContinuation y) (hz : IsContinuation z)
    (hCode : code = 262144 * (b.toNat - 0xf0) + 4096 * (x.toNat - 0x80) +
      64 * (y.toNat - 0x80) + (z.toNat - 0x80)) :
    Spells b [x, y, z] code

/-- The least code that needs so many bytes after the first one. -/
def leastCode : Nat → Nat
  | 0 => 0
  | 1 => 0x80
  | 2 => 0x800
  | _ => 0x10000

theorem toNat_lt (c : Char) : c.toNat < 0x110000 := by
  rcases c.valid with h | h
  · exact Nat.lt_trans h (by decide)
  · exact h.2

theorem toNat_ofNat {code : Nat} (h : code.isValidChar) : (Char.ofNat code).toNat = code := by
  rw [Char.ofNat, dif_pos h]
  rfl

theorem encodeChar_eq (c : Char) : encodeChar c = String.utf8EncodeChar c := by
  have hBound := toNat_lt c
  have hVal : c.val.toNat = c.toNat := rfl
  simp only [encodeChar, String.utf8EncodeChar, hVal, Nat.shiftRight_eq_div_pow]
  split_ifs <;> simp [← UInt8.toNat_inj] <;> omega

/-- The bytes of a character are the shortest that spell its code. -/
theorem utf8EncodeChar_eq_cons {c : Char} {b : UInt8} {more : List UInt8} :
    String.utf8EncodeChar c = b :: more ↔
      Spells b more c.toNat ∧ leastCode more.length ≤ c.toNat := by
  have hBound := toNat_lt c
  have hVal : c.val.toNat = c.toNat := rfl
  simp only [String.utf8EncodeChar, hVal]
  constructor
  · intro h
    split_ifs at h <;> cases h
    · exact ⟨.one (by simp; omega) (by simp; omega), Nat.zero_le _⟩
    · refine ⟨.two ?_ ?_ ?_, ?_⟩ <;> simp [IsContinuation, leastCode] <;> omega
    · refine ⟨.three ?_ ?_ ?_ ?_, ?_⟩ <;> simp [IsContinuation, leastCode] <;> omega
    · refine ⟨.four ?_ ?_ ?_ ?_ ?_, ?_⟩ <;> simp [IsContinuation, leastCode] <;> omega
  · rintro ⟨hSpells, hLeast⟩
    cases hSpells with
    | one hFirst hCode =>
      rw [if_pos (by omega)]
      simp [hCode]
    | two hFirst hx hCode =>
      simp only [List.length_cons, List.length_nil, leastCode] at hLeast
      unfold IsContinuation at hx
      rw [if_neg (by omega), if_pos (by omega)]
      simp [← UInt8.toNat_inj]
      omega
    | three hFirst hx hy hCode =>
      simp only [List.length_cons, List.length_nil, leastCode] at hLeast
      unfold IsContinuation at hx hy
      rw [if_neg (by omega), if_neg (by omega), if_pos (by omega)]
      simp [← UInt8.toNat_inj]
      omega
    | four hFirst hx hy hz hCode =>
      simp only [List.length_cons, List.length_nil, leastCode] at hLeast
      unfold IsContinuation at hx hy hz
      rw [if_neg (by omega), if_neg (by omega), if_neg (by omega)]
      simp [← UInt8.toNat_inj]
      omega

/-! ### Reading a sequence -/

/-- The first of some bytes lies between two bounds, and the others go on with a sequence. -/
def Within (low high : UInt8) : List UInt8 → Prop
  | [] => True
  | b :: rest => (low ≤ b ∧ b ≤ high) ∧ ∀ x ∈ rest, IsContinuation x

theorem within_cons {low high b : UInt8} {rest : List UInt8} :
    Within low high (b :: rest) ↔
      (low.toNat ≤ b.toNat ∧ b.toNat ≤ high.toNat) ∧ ∀ x ∈ rest, IsContinuation x := by
  simp only [Within, UInt8.le_iff_toNat_le]

theorem within_continuation {more : List UInt8} :
    Within 0x80 0xbf more ↔ ∀ x ∈ more, IsContinuation x := by
  cases more with
  | nil => simp [Within]
  | cons b rest =>
    simp only [within_cons, List.forall_mem_cons, IsContinuation, UInt8.reduceToNat,
      Nat.lt_succ_iff]

/-- A code with six bits from each of some bytes put after it. -/
def joined (bits : Nat) (more : List UInt8) : Nat :=
  more.foldl (fun code b => 64 * code + (b.toNat - 0x80)) bits

theorem joined_nil (bits : Nat) : joined bits [] = bits := by rw [joined, List.foldl_nil]

theorem joined_cons (bits : Nat) (b : UInt8) (rest : List UInt8) :
    joined bits (b :: rest) = joined (64 * bits + (b.toNat - 0x80)) rest := by
  rw [joined, List.foldl_cons, joined]

theorem continued?_eq_some {count bits code : Nat} {low high : UInt8} {bytes : List UInt8} :
    continued? count bits low high bytes = some code ↔
      ∃ more, more <+: bytes ∧ more.length = count ∧ Within low high more ∧
        joined bits more = code := by
  induction count generalizing bits low high bytes with
  | zero => simp [continued?, List.length_eq_zero_iff, Within, joined]
  | succ count ih =>
    cases bytes with
    | nil => simp [continued?]
    | cons b rest =>
      simp only [continued?, Option.ite_none_right_eq_some, ih, within_continuation]
      constructor
      · rintro ⟨hFirst, more, hRest, rfl, hMore, rfl⟩
        refine ⟨b :: more, (List.prefix_cons_inj b).mpr hRest, rfl, ⟨hFirst, hMore⟩, ?_⟩
        rw [joined_cons]
      · rintro ⟨more, hRest, hLength, hWithin, rfl⟩
        obtain ⟨x, more, rfl⟩ := List.exists_cons_of_length_eq_add_one hLength
        obtain ⟨rest, hBytes⟩ := hRest
        obtain ⟨rfl, rfl⟩ := List.cons.inj hBytes
        refine ⟨hWithin.1, more, List.prefix_append _ _, Nat.succ.inj hLength, hWithin.2, ?_⟩
        rw [joined_cons]

theorem lead?_eq_some {b : UInt8} {count bits : Nat} {low high : UInt8} :
    lead? b = some (count, bits, low, high) ↔
      count = 0 ∧ b.toNat = bits ∧ bits < 0x80 ∧ low = 0 ∧ high = 0 ∨
      count = 1 ∧ b.toNat = 0xc0 + bits ∧ (2 ≤ bits ∧ bits < 0x20) ∧ low = 0x80 ∧ high = 0xbf ∨
      count = 2 ∧ b.toNat = 0xe0 + bits ∧ bits < 0x10 ∧
        low = (if bits = 0 then 0xa0 else 0x80) ∧ high = (if bits = 0xd then 0x9f else 0xbf) ∨
      count = 3 ∧ b.toNat = 0xf0 + bits ∧ bits ≤ 4 ∧
        low = (if bits = 0 then 0x90 else 0x80) ∧ high = (if bits = 4 then 0x8f else 0xbf) := by
  simp only [lead?, UInt8.lt_iff_toNat_lt, ← UInt8.toNat_inj (a := b), UInt8.reduceToNat]
  split_ifs <;> simp <;> grind

/-- The bounds of the second byte leave out exactly the codes that are too small for so many bytes
and those of no character. -/
theorem lead?_fits {b : UInt8} {more : List UInt8} {code : Nat} :
    (∃ bits low high, lead? b = some (more.length, bits, low, high) ∧ Within low high more ∧
        joined bits more = code) ↔
      Spells b more code ∧ leastCode more.length ≤ code ∧ code.isValidChar := by
  unfold Nat.isValidChar
  simp only [lead?_eq_some]
  constructor
  · rintro ⟨bits, low, high, hLead, hWithin, rfl⟩
    rcases hLead with ⟨hLength, hFirst, hBits, rfl, rfl⟩ | ⟨hLength, hFirst, hBits, rfl, rfl⟩ |
      ⟨hLength, hFirst, hBits, rfl, rfl⟩ | ⟨hLength, hFirst, hBits, rfl, rfl⟩
    · obtain rfl := List.length_eq_zero_iff.mp hLength
      rw [joined_nil]
      exact ⟨.one (by omega) hFirst.symm, Nat.zero_le _, by omega⟩
    · obtain ⟨x, rfl⟩ := List.length_eq_one_iff.mp hLength
      have hx : IsContinuation x := within_continuation.mp hWithin x List.mem_cons_self
      simp only [joined_cons, joined_nil, List.length_singleton, leastCode]
      unfold IsContinuation at hx
      exact ⟨.two (by omega) hx (by omega), by omega, by omega⟩
    · obtain ⟨x, y, rfl⟩ := List.length_eq_two.mp hLength
      obtain ⟨hBounds, hMore⟩ := within_cons.mp hWithin
      have hy : IsContinuation y := hMore y (by simp)
      simp only [joined_cons, joined_nil, List.length_cons, List.length_nil, leastCode]
      have hx : IsContinuation x := by
        unfold IsContinuation
        split_ifs at hBounds <;> simp only [UInt8.reduceToNat] at hBounds <;> omega
      unfold IsContinuation at hx hy
      refine ⟨.three (by omega) hx hy (by omega), ?_⟩
      split_ifs at hBounds <;> simp only [UInt8.reduceToNat] at hBounds <;> omega
    · obtain ⟨x, y, z, rfl⟩ := List.length_eq_three.mp hLength
      obtain ⟨hBounds, hMore⟩ := within_cons.mp hWithin
      have hy : IsContinuation y := hMore y (by simp)
      have hz : IsContinuation z := hMore z (by simp)
      simp only [joined_cons, joined_nil, List.length_cons, List.length_nil, leastCode]
      have hx : IsContinuation x := by
        unfold IsContinuation
        split_ifs at hBounds <;> simp only [UInt8.reduceToNat] at hBounds <;> omega
      unfold IsContinuation at hx hy hz
      refine ⟨.four (by omega) hx hy hz (by omega), ?_⟩
      split_ifs at hBounds <;> simp only [UInt8.reduceToNat] at hBounds <;> omega
  · rintro ⟨hSpells, hLeast, hValid⟩
    cases hSpells with
    | one hFirst hCode =>
      exact ⟨b.toNat, _, _, .inl ⟨rfl, rfl, hFirst, rfl, rfl⟩, trivial, hCode.symm⟩
    | @two x _ hFirst hx hCode =>
      simp only [List.length_cons, List.length_nil, leastCode] at hLeast
      have hWithin : Within 0x80 0xbf [x] :=
        within_continuation.mpr (List.forall_mem_singleton.mpr hx)
      unfold IsContinuation at hx
      refine ⟨b.toNat - 0xc0, _, _, .inr (.inl ⟨rfl, ?_, ?_, rfl, rfl⟩), hWithin, ?_⟩
      · omega
      · omega
      · rw [joined_cons, joined_nil, hCode]
    | @three x y _ hFirst hx hy hCode =>
      simp only [List.length_cons, List.length_nil, leastCode] at hLeast
      have hMore : ∀ u ∈ [y], IsContinuation u := List.forall_mem_singleton.mpr hy
      unfold IsContinuation at hx hy
      refine ⟨b.toNat - 0xe0, _, _, .inr (.inr (.inl ⟨rfl, ?_, ?_, rfl, rfl⟩)),
        within_cons.mpr ⟨?_, hMore⟩, ?_⟩
      · omega
      · omega
      · split_ifs <;> simp only [UInt8.reduceToNat] <;> omega
      · simp only [joined_cons, joined_nil]
        omega
    | @four x y z _ hFirst hx hy hz hCode =>
      simp only [List.length_cons, List.length_nil, leastCode] at hLeast
      have hMore : ∀ u ∈ [y, z], IsContinuation u := by simp [hy, hz]
      unfold IsContinuation at hx hy hz
      refine ⟨b.toNat - 0xf0, _, _, .inr (.inr (.inr ⟨rfl, ?_, ?_, rfl, rfl⟩)),
        within_cons.mpr ⟨?_, hMore⟩, ?_⟩
      · omega
      · omega
      · split_ifs <;> simp only [UInt8.reduceToNat] <;> omega
      · simp only [joined_cons, joined_nil]
        omega

/-- A character is read exactly where its bytes are. -/
theorem charAt?_eq_some {b : UInt8} {rest : List UInt8} {c : Char} {count : Nat} :
    charAt? b rest = some (c, count) ↔
      ∃ more, String.utf8EncodeChar c = b :: more ∧ more <+: rest ∧ more.length = count := by
  rw [charAt?]
  constructor
  · intro h
    split at h
    · cases h
    · rename_i hLead
      obtain ⟨code, hContinued, hRead⟩ := Option.map_eq_some_iff.mp h
      cases hRead
      obtain ⟨more, hRest, rfl, hWithin, hCode⟩ := continued?_eq_some.mp hContinued
      obtain ⟨hSpells, hLeast, hValid⟩ := lead?_fits.mp ⟨_, _, _, hLead, hWithin, hCode⟩
      rw [← toNat_ofNat hValid] at hSpells hLeast
      exact ⟨more, utf8EncodeChar_eq_cons.mpr ⟨hSpells, hLeast⟩, hRest, rfl⟩
  · rintro ⟨more, hBytes, hRest, rfl⟩
    obtain ⟨hSpells, hLeast⟩ := utf8EncodeChar_eq_cons.mp hBytes
    obtain ⟨bits, low, high, hLead, hWithin, hCode⟩ := lead?_fits.mpr ⟨hSpells, hLeast, c.valid⟩
    have hContinued := continued?_eq_some.mpr ⟨more, hRest, rfl, hWithin, hCode⟩
    simp only [hLead, hContinued, Option.map_some, Char.ofNat_toNat]

/-! ### Bytes that start no sequence -/

/-- How many bytes are to follow a first byte. -/
def announced (b : UInt8) : Nat :=
  if b.toNat < 0x80 then 0 else if b.toNat < 0xe0 then 1 else if b.toNat < 0xf0 then 2 else 3

/-- Why no well-formed sequence starts with `b` before `rest`. -/
inductive Fault (b : UInt8) (rest : List UInt8) : Prop
  /-- Only a sequence that has begun before has such a byte, or none at all has. -/
  | stray (h : IsContinuation b ∨ 0xf8 ≤ b.toNat)
  /-- The bytes end, or others start, before all that are to follow have come. -/
  | truncated (hFirst : 0xc0 ≤ b.toNat ∧ b.toNat < 0xf8)
    (hFew : (rest.takeWhile fun x => IsContinuation x).length < announced b)
  /-- The code needs fewer bytes. -/
  | overlong {more : List UInt8} {code : Nat} (hRest : more <+: rest) (hSpells : Spells b more code)
    (hCode : code < leastCode more.length)
  | surrogate {more : List UInt8} {code : Nat} (hRest : more <+: rest)
    (hSpells : Spells b more code) (hCode : 0xd800 ≤ code ∧ code ≤ 0xdfff)
  /-- The code lies beyond those of all characters. -/
  | beyond {more : List UInt8} {code : Nat} (hRest : more <+: rest) (hSpells : Spells b more code)
    (hCode : 0x10ffff < code)

variable {b : UInt8} {rest more others : List UInt8} {code code' : Nat}

theorem Spells.length_eq (h : Spells b more code) : more.length = announced b := by
  unfold announced
  cases h <;> simp only [List.length_cons, List.length_nil] <;> split_ifs <;> omega

theorem Spells.continued (h : Spells b more code) : ∀ x ∈ more, IsContinuation x := by
  cases h <;> simp [*]

/-- The bytes that are there spell one code at most. -/
theorem Spells.unique (h : Spells b more code) (hRest : more <+: rest)
    (h' : Spells b others code') (hRest' : others <+: rest) : more = others ∧ code = code' := by
  have hLength := h.length_eq.trans h'.length_eq.symm
  have hPrefix := List.prefix_of_prefix_length_le hRest hRest' (Nat.le_of_eq hLength)
  obtain rfl := hPrefix.eq_of_length hLength
  refine ⟨rfl, ?_⟩
  cases h <;> cases h' <;> omega

theorem Spells.first (h : Spells b more code) : ¬ (IsContinuation b ∨ 0xf8 ≤ b.toNat) := by
  unfold IsContinuation
  cases h <;> omega

theorem exists_spells (hFirst : ¬ (IsContinuation b ∨ 0xf8 ≤ b.toNat))
    (hLength : more.length = announced b) (hMore : ∀ x ∈ more, IsContinuation x) :
    ∃ code, Spells b more code := by
  unfold IsContinuation at hFirst
  unfold announced at hLength
  split_ifs at hLength
  · obtain rfl := List.length_eq_zero_iff.mp hLength
    exact ⟨_, .one (by omega) rfl⟩
  · obtain ⟨x, rfl⟩ := List.length_eq_one_iff.mp hLength
    exact ⟨_, .two (by omega) (hMore x (by simp)) rfl⟩
  · obtain ⟨x, y, rfl⟩ := List.length_eq_two.mp hLength
    exact ⟨_, .three (by omega) (hMore x (by simp)) (hMore y (by simp)) rfl⟩
  · obtain ⟨x, y, z, rfl⟩ := List.length_eq_three.mp hLength
    exact ⟨_, .four (by omega) (hMore x (by simp)) (hMore y (by simp)) (hMore z (by simp)) rfl⟩

theorem exists_utf8EncodeChar_prefix :
    (∃ c, String.utf8EncodeChar c <+: b :: rest) ↔
      ∃ more code, more <+: rest ∧ Spells b more code ∧ leastCode more.length ≤ code ∧
        code.isValidChar := by
  constructor
  · rintro ⟨c, hPrefix⟩
    obtain ⟨first, more, hBytes⟩ := List.exists_cons_of_ne_nil (@String.utf8EncodeChar_ne_nil c)
    rw [hBytes] at hPrefix
    obtain ⟨rfl, hRest⟩ := List.cons_prefix_cons.mp hPrefix
    obtain ⟨hSpells, hLeast⟩ := utf8EncodeChar_eq_cons.mp hBytes
    exact ⟨more, _, hRest, hSpells, hLeast, c.valid⟩
  · rintro ⟨more, code, hRest, hSpells, hLeast, hValid⟩
    rw [← toNat_ofNat hValid] at hSpells hLeast
    refine ⟨Char.ofNat code, ?_⟩
    rw [utf8EncodeChar_eq_cons.mpr ⟨hSpells, hLeast⟩]
    exact (List.prefix_cons_inj b).mpr hRest

theorem Fault.not_prefix (h : Fault b rest) (c : Char) :
    ¬ String.utf8EncodeChar c <+: b :: rest := by
  intro hPrefix
  obtain ⟨others, code', hOthers, hSpells', hLeast, hValid⟩ :=
    exists_utf8EncodeChar_prefix.mp ⟨c, hPrefix⟩
  cases h with
  | stray hStray => exact hSpells'.first hStray
  | truncated hFirst hFew =>
    obtain ⟨last, rfl⟩ := hOthers
    rw [List.takeWhile_append_of_pos (by simpa using hSpells'.continued), List.length_append,
      hSpells'.length_eq] at hFew
    omega
  | overlong hRest hSpells hCode =>
    obtain ⟨rfl, rfl⟩ := hSpells.unique hRest hSpells' hOthers
    omega
  | surrogate hRest hSpells hCode =>
    obtain ⟨rfl, rfl⟩ := hSpells.unique hRest hSpells' hOthers
    unfold Nat.isValidChar at hValid
    omega
  | beyond hRest hSpells hCode =>
    obtain ⟨rfl, rfl⟩ := hSpells.unique hRest hSpells' hOthers
    unfold Nat.isValidChar at hValid
    omega

theorem forall_not_prefix_iff :
    (∀ c, ¬ String.utf8EncodeChar c <+: b :: rest) ↔ Fault b rest := by
  refine ⟨fun hNone => ?_, Fault.not_prefix⟩
  by_cases hFirst : IsContinuation b ∨ 0xf8 ≤ b.toNat
  · exact .stray hFirst
  by_cases hFew : (rest.takeWhile fun x => IsContinuation x).length < announced b
  · refine .truncated ?_ hFew
    unfold announced at hFew
    unfold IsContinuation at hFirst
    split_ifs at hFew <;> omega
  -- All bytes that are to follow are there, so that some code is spelled.
  have hRest := (List.take_prefix (announced b) _).trans
    (List.takeWhile_prefix (l := rest) fun x => decide (IsContinuation x))
  have hContinued : ∀ x ∈ (rest.takeWhile fun x => IsContinuation x).take (announced b),
      IsContinuation x := by
    intro x hx
    have hAll := List.all_takeWhile (p := fun x => decide (IsContinuation x)) (l := rest)
    exact of_decide_eq_true (List.all_eq_true.mp hAll x (List.mem_of_mem_take hx))
  have hLength : ((rest.takeWhile fun x => IsContinuation x).take (announced b)).length =
      announced b := by
    rw [List.length_take]
    omega
  obtain ⟨code, hSpells⟩ := exists_spells hFirst hLength hContinued
  rcases Nat.lt_or_ge code (leastCode (announced b)) with hSmall | hLeast
  · exact .overlong hRest hSpells (by rwa [hLength])
  have hInvalid : ¬ code.isValidChar := by
    intro hValid
    obtain ⟨c, hPrefix⟩ := exists_utf8EncodeChar_prefix.mpr
      ⟨_, code, hRest, hSpells, by rwa [hLength], hValid⟩
    exact hNone c hPrefix
  unfold Nat.isValidChar at hInvalid
  rcases Nat.lt_or_ge 0xdfff code with hAbove | hBelow
  · exact .beyond hRest hSpells (by omega)
  · exact .surrogate hRest hSpells (by omega)

end TelemetryLog.Text.Utf8
