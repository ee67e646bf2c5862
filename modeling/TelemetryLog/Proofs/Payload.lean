import TelemetryLog.Payload
import TelemetryLog.Proofs.Text.Utf8

/-! What is shown of a payload. Its bytes fall into pieces in one way: from the left on, the
sequence of a character where one starts, and a single byte elsewhere. A reader is shown the
characters and the codes of the single bytes, in this order; so each byte is shown once, and bytes
that are well formed throughout are shown as the text that they encode. -/

namespace TelemetryLog

namespace Text.Utf8

/-- A piece of some bytes: the well-formed sequence of a character, or a byte that starts none. -/
inductive Piece where
  | sequence (c : Char)
  | single (b : UInt8)
  deriving DecidableEq, Repr

namespace Piece

def bytes : Piece → List UInt8
  | .sequence c => String.utf8EncodeChar c
  | .single b => [b]

/-- The characters that show a piece: those of a single byte are a backslash, an `x` and the two
digits of its code. -/
def chars : Piece → List Char
  | .sequence c => [c]
  | .single b => ['\\', 'x', (b.toNat / 16).digitChar, (b.toNat % 16).digitChar]

end Piece

/-- The pieces that bytes fall into from the left. -/
inductive Pieces : List UInt8 → List Piece → Prop
  | nil : Pieces [] []
  | sequence {c : Char} {rest : List UInt8} {pieces : List Piece} (h : Pieces rest pieces) :
    Pieces (String.utf8EncodeChar c ++ rest) (.sequence c :: pieces)
  | single {b : UInt8} {rest : List UInt8} {pieces : List Piece}
    (hNone : ∀ c, ¬ String.utf8EncodeChar c <+: b :: rest) (h : Pieces rest pieces) :
    Pieces (b :: rest) (.single b :: pieces)

theorem hexDigits_byte {n : Nat} (h : n < 256) :
    hexDigits 2 n = [(n / 16).digitChar, (n % 16).digitChar] := by
  rcases Nat.lt_or_ge n 16 with hLow | hHigh
  · have hZero : n / 16 = 0 := by omega
    rw [hexDigits, Nat.toDigits_of_lt_base hLow, hZero, Nat.mod_eq_of_lt hLow]
    rfl
  · have hFirst : n / 16 < 16 := by omega
    rw [hexDigits, Nat.toDigits_of_base_le (by decide) hHigh, Nat.toDigits_of_lt_base hFirst]
    rfl

theorem chars_single (b : UInt8) : (Piece.single b).chars = strayByte b := by
  rw [strayByte, hexDigits_byte b.toNat_lt]
  rfl

theorem readFrom_append (more rest : List UInt8) :
    readFrom more.length (more ++ rest) = readFrom 0 rest := by
  induction more with
  | nil => rfl
  | cons b more ih => rw [List.length_cons, List.cons_append, readFrom, ih]

theorem charAt?_append {c : Char} {b : UInt8} {more : List UInt8}
    (hBytes : String.utf8EncodeChar c = b :: more) (rest : List UInt8) :
    charAt? b (more ++ rest) = some (c, more.length) :=
  charAt?_eq_some.mpr ⟨more, hBytes, List.prefix_append more rest, rfl⟩

theorem charAt?_eq_none {b : UInt8} {rest : List UInt8} :
    charAt? b rest = none ↔ ∀ c, ¬ String.utf8EncodeChar c <+: b :: rest := by
  constructor
  · rintro hNone c ⟨last, hPrefix⟩
    obtain ⟨first, more, hBytes⟩ := List.exists_cons_of_ne_nil (@String.utf8EncodeChar_ne_nil c)
    rw [hBytes, List.cons_append] at hPrefix
    obtain ⟨rfl, rfl⟩ := List.cons.inj hPrefix
    rw [charAt?_append hBytes] at hNone
    cases hNone
  · intro hNone
    refine Option.eq_none_iff_forall_ne_some.mpr fun ⟨c, count⟩ hRead => ?_
    obtain ⟨more, hBytes, hRest, -⟩ := charAt?_eq_some.mp hRead
    refine hNone c ?_
    rw [hBytes]
    exact (List.prefix_cons_inj b).mpr hRest

theorem exists_pieces (bytes : List UInt8) : ∃ pieces, Pieces bytes pieces := by
  induction hLength : bytes.length using Nat.strongRecOn generalizing bytes with
  | ind length ih =>
    subst hLength
    cases bytes with
    | nil => exact ⟨[], .nil⟩
    | cons b rest =>
      cases hRead : charAt? b rest with
      | none =>
        obtain ⟨pieces, hPieces⟩ := ih rest.length (Nat.lt_succ_self _) rest rfl
        exact ⟨_, .single (charAt?_eq_none.mp hRead) hPieces⟩
      | some read =>
        obtain ⟨more, hBytes, ⟨last, rfl⟩, -⟩ := charAt?_eq_some.mp hRead
        have hShorter : last.length < (b :: (more ++ last)).length := by
          simp only [List.length_cons, List.length_append]
          omega
        obtain ⟨pieces, hPieces⟩ := ih last.length hShorter last rfl
        have hNext := Pieces.sequence (c := read.1) hPieces
        rw [hBytes] at hNext
        exact ⟨_, hNext⟩

namespace Pieces

variable {bytes : List UInt8} {pieces others : List Piece}

theorem bytes_eq (h : Pieces bytes pieces) : pieces.flatMap Piece.bytes = bytes := by
  induction h with
  | nil => rfl
  | sequence _ ih => rw [List.flatMap_cons, ih]; rfl
  | single _ _ ih => rw [List.flatMap_cons, ih]; rfl

theorem read_eq (h : Pieces bytes pieces) : read bytes = pieces.flatMap Piece.chars := by
  induction h with
  | nil => rfl
  | @sequence c rest pieces _ ih =>
    obtain ⟨b, more, hBytes⟩ := List.exists_cons_of_ne_nil (@String.utf8EncodeChar_ne_nil c)
    rw [hBytes, List.cons_append, read, readFrom, charAt?_append hBytes]
    dsimp only
    rw [readFrom_append, List.flatMap_cons, ← ih]
    rfl
  | @single b rest pieces hNone _ ih =>
    rw [read, readFrom, charAt?_eq_none.mpr hNone]
    dsimp only
    rw [List.flatMap_cons, ← ih, chars_single]
    rfl

theorem of_nil (h : Pieces [] pieces) : pieces = [] := by
  have hBytes := h.bytes_eq
  cases pieces with
  | nil => rfl
  | cons piece pieces =>
    cases piece with
    | sequence c => simp [Piece.bytes, String.utf8EncodeChar_ne_nil] at hBytes
    | single b => cases hBytes

theorem of_cons {b : UInt8} {rest : List UInt8} (h : Pieces (b :: rest) pieces) :
    (∃ c more last tail, String.utf8EncodeChar c = b :: more ∧ rest = more ++ last ∧
      pieces = .sequence c :: tail ∧ Pieces last tail) ∨
    ((∀ c, ¬ String.utf8EncodeChar c <+: b :: rest) ∧
      ∃ tail, pieces = .single b :: tail ∧ Pieces rest tail) := by
  generalize hAll : b :: rest = all at h
  cases h with
  | nil => cases hAll
  | @sequence c last tail hTail =>
    obtain ⟨first, more, hBytes⟩ := List.exists_cons_of_ne_nil (@String.utf8EncodeChar_ne_nil c)
    rw [hBytes, List.cons_append] at hAll
    obtain ⟨rfl, rfl⟩ := List.cons.inj hAll
    exact .inl ⟨c, more, last, tail, hBytes, rfl, rfl, hTail⟩
  | single hNone hTail =>
    obtain ⟨rfl, rfl⟩ := List.cons.inj hAll
    exact .inr ⟨hNone, _, rfl, hTail⟩

/-- Bytes fall into pieces in one way. -/
theorem unique (h : Pieces bytes pieces) (h' : Pieces bytes others) : pieces = others := by
  induction h generalizing others with
  | nil => exact h'.of_nil.symm
  | @sequence c rest pieces _ ih =>
    obtain ⟨b, more, hBytes⟩ := List.exists_cons_of_ne_nil (@String.utf8EncodeChar_ne_nil c)
    rw [hBytes, List.cons_append] at h'
    have hRead := charAt?_append hBytes rest
    rcases h'.of_cons with ⟨c', more', last, tail, hBytes', hRest, rfl, hTail⟩ | ⟨hNone, -⟩
    · rw [hRest, charAt?_append hBytes' last, Option.some.injEq, Prod.mk.injEq] at hRead
      obtain ⟨rfl, -⟩ := hRead
      obtain ⟨-, rfl⟩ := List.cons.inj (hBytes.symm.trans hBytes')
      rw [ih (List.append_cancel_left hRest ▸ hTail)]
    · rw [charAt?_eq_none.mpr hNone] at hRead
      cases hRead
  | @single b rest pieces hNone _ ih =>
    rcases h'.of_cons with ⟨c, more, last, tail, hBytes, rfl, -, -⟩ | ⟨-, tail, rfl, hTail⟩
    · refine absurd ?_ (hNone c)
      rw [hBytes]
      exact List.prefix_append (b :: more) last
    · rw [ih hTail]

/-- The bytes of characters fall into the sequences of these. -/
theorem of_chars (s : List Char) : Pieces (s.flatMap String.utf8EncodeChar) (s.map .sequence) := by
  induction s with
  | nil => exact .nil
  | cons c s ih => exact .sequence ih

end Pieces

theorem read_flatMap (s : List Char) : read (s.flatMap String.utf8EncodeChar) = s := by
  rw [(Pieces.of_chars s).read_eq, List.flatMap_map]
  exact List.flatMap_singleton' s

end Text.Utf8

namespace Payload

open Text.Utf8

theorem octets_text (s : String) : (text s).octets = s.toByteArray.data.toList := by
  rw [octets, encode, funext encodeChar_eq, ← String.utf8Encode_toList, List.utf8Encode,
    List.toList_data_toByteArray]

theorem display_utf8Encode (s : List Char) :
    (bytes s.utf8Encode.data.toList).display = String.ofList s := by
  rw [display, List.utf8Encode, List.toList_data_toByteArray, read_flatMap]

theorem display_toByteArray (b : List UInt8) :
    (bytes b).display.toByteArray = b.toByteArray ↔ b.toByteArray.IsValidUTF8 := by
  constructor
  · intro hSame
    rw [← hSame]
    exact (bytes b).display.isValidUTF8
  · rintro ⟨s, hEncoded⟩
    have hDisplay := display_utf8Encode s
    rw [← hEncoded, List.toList_data_toByteArray] at hDisplay
    rw [hDisplay, String.toByteArray_ofList, hEncoded]

/-- Whatever the bytes of a payload, what is shown of it is put together from the pieces that they
fall into, in which each byte stands once. A byte is a piece of its own when no sequence starts with
it, for one of five faults. A text is shown of its bytes, and bytes are those of what is shown when
they are well formed throughout. -/
theorem display_keeps_bytes :
    (∀ b : List UInt8, ∃ pieces, (∀ others, Pieces b others ↔ others = pieces) ∧
      pieces.flatMap Piece.bytes = b ∧
      (bytes b).display = String.ofList (pieces.flatMap Piece.chars)) ∧
    (∀ (b : UInt8) (rest : List UInt8),
      (∀ c, ¬ String.utf8EncodeChar c <+: b :: rest) ↔ Fault b rest) ∧
    (∀ s : String, (text s).octets = s.toByteArray.data.toList ∧
      (bytes (text s).octets).display = s) ∧
    ∀ b : List UInt8,
      (bytes b).display.toByteArray = b.toByteArray ↔ b.toByteArray.IsValidUTF8 := by
  refine ⟨fun b => ?_, fun b rest => forall_not_prefix_iff, fun s => ⟨octets_text s, ?_⟩,
    display_toByteArray⟩
  · obtain ⟨pieces, hPieces⟩ := exists_pieces b
    have hUnique (others : List Piece) : Pieces b others ↔ others = pieces :=
      ⟨fun hOthers => hOthers.unique hPieces, fun hSame => hSame ▸ hPieces⟩
    exact ⟨pieces, hUnique, hPieces.bytes_eq, congrArg String.ofList hPieces.read_eq⟩
  · rw [octets_text, ← String.utf8Encode_toList, display_utf8Encode, String.ofList_toList]

end Payload

end TelemetryLog
