import TelemetryLog.Json.Reader

/-! Reading JSON texts that are written without blanks and without escapes: arrays within each
other, and objects with one member. -/

namespace TelemetryLog

namespace Text.Utf8

def isAscii (c : Char) : Bool := c.toNat < 0x80

theorem encodeChar_ascii {c : Char} (h : c.toNat < 0x80) : encodeChar c = [c.toNat.toUInt8] := by
  simp only [encodeChar, if_pos h]

theorem charAt?_ascii {c : Char} (h : c.toNat < 0x80) (rest : List UInt8) :
    charAt? c.toNat.toUInt8 rest = some (c, 0) := by
  have hByte : c.toNat.toUInt8.toNat = c.toNat := by
    rw [Nat.toUInt8, UInt8.toNat_ofNat', Nat.mod_eq_of_lt (by omega)]
  have hLess : c.toNat.toUInt8 < 0x80 := by
    rw [UInt8.lt_iff_toNat_lt, hByte]
    exact h
  simp only [charAt?, lead?, if_pos hLess, continued?, hByte, Option.map_some, Char.ofNat_toNat]

theorem decode?_encode_ascii {s : List Char} (h : s.all isAscii = true) :
    decode? (encode s) = some s := by
  rw [decode?]
  induction s with
  | nil => rfl
  | cons c rest ih =>
    rw [List.all_cons, Bool.and_eq_true] at h
    have hFirst : c.toNat < 0x80 := of_decide_eq_true h.1
    have hRest := ih h.2
    rw [encode] at hRest ⊢
    rw [List.flatMap_cons, encodeChar_ascii hFirst, List.singleton_append, decodeFrom,
      charAt?_ascii hFirst]
    simp only [hRest, Option.map_some]

end Text.Utf8

namespace Json

open Text.Utf8 (isAscii)

/-- A character that stands for itself in a string. -/
def isPlain (c : Char) : Bool := c ≠ '\x22' && c ≠ '\\' && 0x20 ≤ c.toNat

theorem readString?_plain {fuel : Nat} {s rest : List Char} (hPlain : s.all isPlain = true)
    (hFuel : s.length < fuel) : readString? fuel (s ++ '\x22' :: rest) = some (s, rest) := by
  induction s generalizing fuel with
  | nil =>
    obtain ⟨fuel, rfl⟩ := Nat.exists_eq_add_one_of_ne_zero (Nat.ne_of_gt hFuel)
    simp [readString?]
  | cons c s ih =>
    obtain ⟨fuel, rfl⟩ := Nat.exists_eq_add_one_of_ne_zero (by omega : fuel ≠ 0)
    rw [List.all_cons, Bool.and_eq_true] at hPlain
    rw [List.length_cons] at hFuel
    have hFirst := hPlain.1
    simp only [isPlain, Bool.and_eq_true, decide_eq_true_eq] at hFirst
    obtain ⟨⟨hQuote, hSlash⟩, hControl⟩ := hFirst
    rw [List.cons_append, readString?, if_neg hQuote, if_neg hSlash, if_neg (by omega),
      ih hPlain.2 (by omega)]
    rfl

def objectText (key value : List Char) : List Char :=
  '\x7b' :: '\x22' :: key ++ '\x22' :: ':' :: value ++ ['\x7d']

theorem objectText_ascii {key value : List Char} (hKey : key.all isAscii = true)
    (hValue : value.all isAscii = true) : (objectText key value).all isAscii = true := by
  simp only [objectText, List.all_append, List.all_cons, hKey, hValue]
  rfl

/-- A text is read as a value, whatever comes after it, with so many levels and steps allowed. It
starts with a character that is neither a blank nor the end of an array. -/
structure Reads (levels steps : Nat) (text : List Char) (value : Value) : Prop where
  starts : ∃ c rest, text = c :: rest ∧ isSpace c = false ∧ c ≠ ']'
  reads : ∀ {fuel depth : Nat} (rest : List Char), steps ≤ fuel → levels ≤ depth →
    readValue? fuel depth (text ++ rest) = some (value, rest)

namespace Reads

variable {levels steps : Nat} {text : List Char} {value : Value}

theorem skipSpace_append (h : Reads levels steps text value) (rest : List Char) :
    skipSpace (text ++ rest) = text ++ rest := by
  obtain ⟨c, tail, rfl, hSpace, -⟩ := h.starts
  rw [skipSpace, List.cons_append, List.dropWhile_cons_of_neg (by simp [hSpace])]

theorem emptyArray : Reads 1 1 ['[', ']'] (.array []) := by
  refine ⟨⟨'[', [']'], rfl, rfl, by decide⟩, fun rest hSteps hLevels => ?_⟩
  rename_i fuel depth
  obtain ⟨fuel, rfl⟩ := Nat.exists_eq_add_one_of_ne_zero (by omega : fuel ≠ 0)
  obtain ⟨depth, rfl⟩ := Nat.exists_eq_add_one_of_ne_zero (by omega : depth ≠ 0)
  rfl

theorem array (h : Reads levels steps text value) :
    Reads (levels + 1) (steps + 2) ('[' :: text ++ [']']) (.array [value]) := by
  refine ⟨⟨'[', text ++ [']'], rfl, rfl, by decide⟩, ?_⟩
  intro fuel depth rest hSteps hLevels
  obtain ⟨fuel, rfl⟩ : ∃ left, fuel = left + 2 := ⟨fuel - 2, by omega⟩
  obtain ⟨depth, rfl⟩ : ∃ left, depth = left + 1 := ⟨depth - 1, by omega⟩
  have hItems : readItems? (fuel + 1) depth (text ++ ']' :: rest) = some ([value], rest) := by
    rw [readItems?, h.reads _ (by omega) (by omega)]
    rfl
  have hSkip := h.skipSpace_append (']' :: rest)
  obtain ⟨c, tail, rfl, -, hOpen⟩ := h.starts
  simp only [List.cons_append, List.append_assoc, List.nil_append] at hItems hSkip ⊢
  rw [readValue?.eq_def]
  simp only [hSkip]
  split
  · contradiction
  · rename_i hEnd
    exact absurd (List.cons.inj hEnd).1 hOpen
  · rename_i hDepth _
    cases hDepth
    rw [hItems]
    rfl

theorem object {key : List Char} (hKey : key.all isPlain = true)
    (h : Reads levels steps text value) :
    Reads (levels + 1) (steps + 2) (objectText key text)
      (.object [(.text (String.ofList key), value)]) := by
  refine ⟨⟨'\x7b', _, rfl, rfl, by decide⟩, ?_⟩
  intro fuel depth rest hSteps hLevels
  obtain ⟨fuel, rfl⟩ : ∃ left, fuel = left + 2 := ⟨fuel - 2, by omega⟩
  obtain ⟨depth, rfl⟩ : ∃ left, depth = left + 1 := ⟨depth - 1, by omega⟩
  have hReadKey : readMembers?.readKey?
      ('\x22' :: (key ++ '\x22' :: ':' :: (text ++ '\x7d' :: rest))) =
        some (.text (String.ofList key), text ++ '\x7d' :: rest) := by
    have hFuel : key.length < (key ++ '\x22' :: ':' :: (text ++ '\x7d' :: rest)).length + 1 := by
      rw [List.length_append]
      omega
    rw [readMembers?.readKey?, readString?_plain hKey hFuel]
    show some (_, skipSpace _) = _
    rw [h.skipSpace_append]
  have hMembers : readMembers? (fuel + 1) depth
      ('\x22' :: (key ++ '\x22' :: ':' :: (text ++ '\x7d' :: rest))) =
        some ([(.text (String.ofList key), value)], rest) := by
    rw [readMembers?, hReadKey]
    simp only [h.reads _ (show steps ≤ fuel by omega) (show levels ≤ depth by omega)]
    rfl
  simp only [objectText, List.cons_append, List.append_assoc, List.nil_append]
  rw [readValue?.eq_def]
  show Option.map _ (readMembers? (fuel + 1) depth _) = _
  rw [hMembers]
  rfl

end Reads

/-- An empty array within `n` others. -/
def nested : Nat → Value
  | 0 => .array []
  | n + 1 => .array [nested n]

def nestedText : Nat → List Char
  | 0 => ['[', ']']
  | n + 1 => '[' :: nestedText n ++ [']']

theorem depth_nested (n : Nat) : (nested n).depth = n + 1 := by
  induction n with
  | zero => rfl
  | succ n ih => simp [nested, Value.depth, Value.itemDepth, ih]

theorem isTooDeep_nested {greatest n : Nat} (h : greatest ≤ n) :
    (nested n).isTooDeep greatest = true := by
  rw [Value.isTooDeep, depth_nested, decide_eq_true_eq]
  omega

theorem length_nestedText (n : Nat) : (nestedText n).length = 2 * n + 2 := by
  induction n with
  | zero => rfl
  | succ n ih =>
    simp only [nestedText, List.length_append, List.length_cons, ih, List.length_nil]
    omega

theorem nestedText_ascii (n : Nat) : (nestedText n).all isAscii = true := by
  induction n with
  | zero => rfl
  | succ n ih =>
    simp only [nestedText, List.all_append, List.all_cons, ih]
    rfl

theorem reads_nested (n : Nat) : Reads (n + 1) (2 * n + 1) (nestedText n) (nested n) := by
  induction n with
  | zero => exact .emptyArray
  | succ n ih => exact ih.array

theorem ofChars?_eq_some {levels steps : Nat} {text : List Char} {value : Value}
    (h : Reads levels steps text value) (hLevels : levels ≤ greatestDepth)
    (hSteps : steps ≤ 2 * text.length + 2) : ofChars? text = some value := by
  have hRead := h.reads [] hSteps hLevels
  have hSkip := h.skipSpace_append []
  rw [List.append_nil] at hRead hSkip
  rw [ofChars?, hSkip, hRead]
  rfl

theorem ofBytes?_eq_some {levels steps : Nat} {text : List Char} {value : Value}
    (h : Reads levels steps text value) (hAscii : text.all isAscii = true)
    (hLevels : levels ≤ greatestDepth) (hSteps : steps ≤ 2 * text.length + 2) :
    ofBytes? (Text.Utf8.encode text) = some value := by
  rw [ofBytes?, Text.Utf8.decode?_encode_ascii hAscii, Option.bind_some,
    ofChars?_eq_some h hLevels hSteps]

end Json

end TelemetryLog
