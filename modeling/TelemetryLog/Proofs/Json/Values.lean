import Mathlib.Data.List.Nodup
import TelemetryLog.Json.Reader

/-! The values of JSON texts. What holds of the scalars that are read, and is handed on to the
arrays and objects of what it holds of, holds of the value of every text; so the keys of each object
in it are texts, and each of them stands once. -/

namespace TelemetryLog

section Keys

variable {key : Scalar}

theorem keyForm_eq_text_iff {s : String} : key.keyForm = .text s ↔ key = .text s := by
  cases key with
  | number x => cases h : x.integer? <;> simp [Scalar.keyForm, h]
  | _ => simp [Scalar.keyForm]

theorem sameKey_text_iff {s : String} : key.sameKey (.text s) = true ↔ key = .text s := by
  have hText : (Scalar.text s).keyForm = .text s := rfl
  rw [Scalar.sameKey, hText, Bool.and_eq_true, decide_eq_true_eq, keyForm_eq_text_iff,
    decide_eq_true_eq]
  exact ⟨And.left, fun h => ⟨h, by simp [h, Scalar.keyForm]⟩⟩

theorem text_sameKey_iff {s : String} : (Scalar.text s).sameKey key = true ↔ key = .text s := by
  have hText : (Scalar.text s).keyForm = .text s := rfl
  rw [Scalar.sameKey, hText, Bool.and_eq_true, decide_eq_true_eq, eq_comm, keyForm_eq_text_iff,
    decide_eq_true_eq]
  exact ⟨And.left, fun h => ⟨h, by simp⟩⟩

/-- To set a member leaves the keys as they are, or adds one at the end if it is not among them. -/
theorem keys_setMember {α : Type} (name : String) (value : α) (members : List (Scalar × α)) :
    (setMember (.text name) value members).map Prod.fst =
      if .text name ∈ members.map Prod.fst then members.map Prod.fst
      else members.map Prod.fst ++ [.text name] := by
  induction members with
  | nil => rfl
  | cons member rest ih =>
    rw [setMember]
    split
    · rename_i hSame
      simp [text_sameKey_iff.mp hSame]
    · rename_i hOther
      rw [text_sameKey_iff] at hOther
      rw [List.map_cons, ih]
      split <;> simp [*, eq_comm (a := Scalar.text name)]

end Keys

namespace Json

/-- A property that values have by the way in which they are read. -/
structure HoldsOfRead (p : Value → Prop) : Prop where
  scalar : ∀ {s rest : List Char} {scalar : Scalar}, readScalar? s = some (scalar, rest) →
    p (.scalar scalar)
  array : ∀ {items : List Value}, (∀ item ∈ items, p item) → p (.array items)
  object : ∀ {members : List (Scalar × Value)},
    (∀ m ∈ members, (∃ key, m.1 = .text key) ∧ p m.2) → p (.ofMembers members)

/-- What is read with so many steps allowed has the property. -/
structure ReadsOnly (p : Value → Prop) (fuel : Nat) : Prop where
  value : ∀ {depth s v rest}, readValue? fuel depth s = some (v, rest) → p v
  items : ∀ {depth s vs rest}, readItems? fuel depth s = some (vs, rest) → ∀ v ∈ vs, p v
  members : ∀ {depth s ms rest}, readMembers? fuel depth s = some (ms, rest) →
    ∀ m ∈ ms, (∃ key, m.1 = .text key) ∧ p m.2

theorem exists_text_of_readKey? {s rest : List Char} {key : Scalar}
    (h : readMembers?.readKey? s = some (key, rest)) : ∃ name, key = .text name := by
  rw [readMembers?.readKey?.eq_def] at h
  split at h
  · split at h
    · cases h
    · split at h
      · cases h
        exact ⟨_, rfl⟩
      · cases h
  · cases h

variable {p : Value → Prop}

theorem HoldsOfRead.readsOnly (h : HoldsOfRead p) (fuel : Nat) : ReadsOnly p fuel := by
  induction fuel with
  | zero => exact ⟨by simp [readValue?], by simp [readItems?], by simp [readMembers?]⟩
  | succ fuel ih =>
    refine ⟨fun {depth s v rest} hRead => ?_, fun {depth s vs rest} hRead => ?_,
      fun {depth s ms rest} hRead => ?_⟩
    · rw [readValue?.eq_def] at hRead
      dsimp only at hRead
      split at hRead
      · split at hRead
        · cases hRead
        · cases hRead
          exact h.array (by simp)
        · obtain ⟨⟨vs, after⟩, hItems, hEq⟩ := Option.map_eq_some_iff.mp hRead
          cases hEq
          exact h.array (ih.items hItems)
      · split at hRead
        · cases hRead
        · cases hRead
          exact @HoldsOfRead.object _ h [] (by simp)
        · obtain ⟨⟨ms, after⟩, hMembers, hEq⟩ := Option.map_eq_some_iff.mp hRead
          cases hEq
          exact h.object (ih.members hMembers)
      · obtain ⟨⟨scalar, after⟩, hScalar, hEq⟩ := Option.map_eq_some_iff.mp hRead
        cases hEq
        exact h.scalar hScalar
    · rw [readItems?] at hRead
      split at hRead
      · cases hRead
      · rename_i first after hFirst
        have hHere := ih.value hFirst
        split at hRead
        · cases hRead
          exact List.forall_mem_singleton.mpr hHere
        · obtain ⟨⟨others, left⟩, hOthers, hEq⟩ := Option.map_eq_some_iff.mp hRead
          cases hEq
          exact List.forall_mem_cons.mpr ⟨hHere, ih.items hOthers⟩
        · cases hRead
    · rw [readMembers?] at hRead
      split at hRead
      · cases hRead
      · rename_i key afterKey hKey
        split at hRead
        · cases hRead
        · rename_i first after hFirst
          have hHere := And.intro (exists_text_of_readKey? hKey) (ih.value hFirst)
          split at hRead
          · cases hRead
            exact List.forall_mem_singleton.mpr hHere
          · obtain ⟨⟨others, left⟩, hOthers, hEq⟩ := Option.map_eq_some_iff.mp hRead
            cases hEq
            exact List.forall_mem_cons.mpr ⟨hHere, ih.members hOthers⟩
          · cases hRead

theorem HoldsOfRead.ofBytes? (h : HoldsOfRead p) {bytes : List UInt8} {v : Value}
    (hRead : Json.ofBytes? bytes = some v) : p v := by
  obtain ⟨s, -, hChars⟩ := Option.bind_eq_some_iff.mp hRead
  rw [ofChars?] at hChars
  split at hChars
  · rename_i value rest hValue
    obtain ⟨-, hEq⟩ := Option.ite_none_right_eq_some.mp hChars
    cases hEq
    exact (h.readsOnly _).value hValue
  · cases hChars

/-- What holds of all keys and what holds of all values still do once the members have been put
together. The two go apart, since a value can then stand with a key that it did not come with. -/
theorem forall_setMembers {q : Scalar → Prop} {members : List (Scalar × Value)}
    (h : ∀ m ∈ members, q m.1 ∧ p m.2) :
    ∀ m ∈ members.foldl (fun done m => setMember m.1 m.2 done) [], q m.1 ∧ p m.2 := by
  have hSet {key : Scalar} {value : Value} {done : List (Scalar × Value)} (hNew : q key ∧ p value)
      (hDone : ∀ m ∈ done, q m.1 ∧ p m.2) : ∀ m ∈ setMember key value done, q m.1 ∧ p m.2 := by
    induction done with
    | nil => simpa [setMember] using hNew
    | cons member rest ih =>
      obtain ⟨first, old⟩ := member
      rw [List.forall_mem_cons] at hDone
      rw [setMember]
      split
      · exact List.forall_mem_cons.mpr ⟨⟨hDone.1.1, hNew.2⟩, hDone.2⟩
      · exact List.forall_mem_cons.mpr ⟨hDone.1, ih hDone.2⟩
  suffices hFold : ∀ done : List (Scalar × Value), (∀ m ∈ done, q m.1 ∧ p m.2) →
      ∀ m ∈ members.foldl (fun done m => setMember m.1 m.2 done) done, q m.1 ∧ p m.2 from
    hFold [] (by simp)
  induction members with
  | nil => exact fun done hDone => hDone
  | cons member rest ih =>
    rw [List.forall_mem_cons] at h
    exact fun done hDone => ih h.2 _ (hSet h.1 hDone)

/-- The keys of an object: texts, each of them once. -/
structure AreKeys (keys : List Scalar) : Prop where
  texts : ∀ key ∈ keys, ∃ name, key = .text name
  distinct : keys.Nodup

theorem areKeys_setMembers {members : List (Scalar × Value)}
    (h : ∀ m ∈ members, ∃ name, m.1 = .text name) :
    AreKeys ((members.foldl (fun done m => setMember m.1 m.2 done) []).map Prod.fst) := by
  suffices hFold : ∀ done : List (Scalar × Value), AreKeys (done.map Prod.fst) →
      AreKeys ((members.foldl (fun done m => setMember m.1 m.2 done) done).map Prod.fst) from
    hFold [] ⟨by simp, .nil⟩
  induction members with
  | nil => exact fun done hDone => hDone
  | cons member rest ih =>
    obtain ⟨key, value⟩ := member
    rw [List.forall_mem_cons] at h
    obtain ⟨⟨name, rfl⟩, hRest⟩ := h
    refine fun done hDone => ih hRest _ ?_
    dsimp only
    rw [keys_setMember]
    split
    · exact hDone
    · rename_i hNew
      refine ⟨?_, hDone.distinct.append (List.nodup_singleton _) (by simpa using hNew)⟩
      rw [List.forall_mem_append]
      exact ⟨hDone.texts, by simp⟩

/-- Values in which, at whatever depth, objects have keys that are fit for them. -/
inductive IsKeyed : Value → Prop
  | scalar (s : Scalar) : IsKeyed (.scalar s)
  | array {items : List Value} (h : ∀ item ∈ items, IsKeyed item) : IsKeyed (.array items)
  | object {members : List (Scalar × Value)} (hKeys : AreKeys (members.map Prod.fst))
      (hValues : ∀ m ∈ members, IsKeyed m.2) : IsKeyed (.object members)

theorem isKeyed_ofBytes? {bytes : List UInt8} {v : Value} (h : ofBytes? bytes = some v) :
    IsKeyed v := by
  refine HoldsOfRead.ofBytes? ⟨fun _ => .scalar _, .array, fun hMembers => ?_⟩ h
  have hSet := @forall_setMembers IsKeyed (∃ name, · = .text name) _ hMembers
  exact .object (areKeys_setMembers fun m hMember => (hMembers m hMember).1)
    fun m hMember => (hSet m hMember).2

end Json

end TelemetryLog
