import TelemetryLog.Json.Reader

/-! JSON texts as they are written. The value that a text has when the objects in it keep all of
their members, one after another, also those with the same key, is its written value; the value of
the text is that one merged, where a key that comes again keeps its place and takes the later
value. -/

namespace TelemetryLog

namespace Value

mutual

/-- A value in which the members of each object have been taken one after another. -/
def merged : Value → Value
  | .scalar s => .scalar s
  | .array items => .array (mergedItems items)
  | .object members => .ofMembers (mergedMembers members)

def mergedItems : List Value → List Value
  | [] => []
  | value :: rest => value.merged :: mergedItems rest

def mergedMembers : List (Scalar × Value) → List (Scalar × Value)
  | [] => []
  | (key, value) :: rest => (key, value.merged) :: mergedMembers rest

end

theorem mergedItems_eq (items : List Value) : mergedItems items = items.map merged := by
  induction items with
  | nil => rfl
  | cons value rest ih => rw [mergedItems, ih, List.map_cons]

theorem mergedMembers_eq (members : List (Scalar × Value)) :
    mergedMembers members = members.map (Prod.map id merged) := by
  induction members with
  | nil => rfl
  | cons member rest ih => rw [mergedMembers, ih, List.map_cons, Prod.map]; rfl

@[simp] theorem merged_scalar (s : Scalar) : merged (.scalar s) = .scalar s := by rw [merged]

@[simp] theorem merged_array (items : List Value) :
    merged (.array items) = .array (items.map merged) := by
  rw [merged, mergedItems_eq]

@[simp] theorem merged_object (members : List (Scalar × Value)) :
    merged (.object members) = .ofMembers (members.map (Prod.map id merged)) := by
  rw [merged, mergedMembers_eq]

/-- A property of all values, from those within each to the value itself. -/
@[elab_as_elim]
theorem induction {p : Value → Prop} (scalar : ∀ s, p (.scalar s))
    (array : ∀ items, (∀ item ∈ items, p item) → p (.array items))
    (object : ∀ members, (∀ member ∈ members, p member.2) → p (.object members)) :
    ∀ value, p value
  | .scalar s => scalar s
  | .array items => array items fun item _ => induction scalar array object item
  | .object members => object members fun member _ => induction scalar array object member.2
decreasing_by
  · have hLess := List.sizeOf_lt_of_mem ‹_ ∈ items›
    simp only [Value.array.sizeOf_spec]
    omega
  · have hLess := List.sizeOf_lt_of_mem ‹_ ∈ members›
    rw [Value.object.sizeOf_spec]
    obtain ⟨key, value⟩ := member
    simp only [Prod.mk.sizeOf_spec] at hLess
    dsimp only
    omega

end Value

namespace Json

open Text

mutual

/-- The written value at the start of a text, and the rest. -/
def readWritten? (fuel depth : Nat) (s : List Char) : Option (Value × List Char) :=
  match fuel with
  | 0 => none
  | fuel + 1 =>
    match s with
    | '[' :: rest =>
      match depth, skipSpace rest with
      | 0, _ => none
      | _ + 1, ']' :: rest => some (.array [], rest)
      | depth + 1, rest =>
        (readWrittenItems? fuel depth rest).map fun (vs, rest) => (.array vs, rest)
    | '\x7b' :: rest =>
      match depth, skipSpace rest with
      | 0, _ => none
      | _ + 1, '\x7d' :: rest => some (.object [], rest)
      | depth + 1, rest =>
        (readWrittenMembers? fuel depth rest).map fun (ms, rest) => (.object ms, rest)
    | s => (readScalar? s).map fun (v, rest) => (.scalar v, rest)

def readWrittenItems? (fuel depth : Nat) (s : List Char) : Option (List Value × List Char) :=
  match fuel with
  | 0 => none
  | fuel + 1 =>
    match readWritten? fuel depth s with
    | none => none
    | some (value, rest) =>
      match skipSpace rest with
      | ']' :: rest => some ([value], rest)
      | ',' :: rest =>
        (readWrittenItems? fuel depth (skipSpace rest)).map fun (vs, rest) => (value :: vs, rest)
      | _ => none

def readWrittenMembers? (fuel depth : Nat) (s : List Char) :
    Option (List (Scalar × Value) × List Char) :=
  match fuel with
  | 0 => none
  | fuel + 1 =>
    match readMembers?.readKey? s with
    | none => none
    | some (key, rest) =>
      match readWritten? fuel depth rest with
      | none => none
      | some (value, rest) =>
        match skipSpace rest with
        | '\x7d' :: rest => some ([(key, value)], rest)
        | ',' :: rest =>
          (readWrittenMembers? fuel depth (skipSpace rest)).map fun (ms, rest) =>
            ((key, value) :: ms, rest)
        | _ => none

end

def writtenOfChars? (s : List Char) : Option Value :=
  match readWritten? (2 * s.length + 2) greatestDepth (skipSpace s) with
  | some (value, rest) => if skipSpace rest = [] then some value else none
  | none => none

/-- The written value of a text in bytes. -/
def written? (bytes : List UInt8) : Option Value := (Utf8.decode? bytes).bind writtenOfChars?

/-- Reading a text is reading it as it is written and merging, with so many steps allowed. -/
structure ReadsMerged (fuel : Nat) : Prop where
  value : ∀ depth s, readValue? fuel depth s =
    (readWritten? fuel depth s).map (Prod.map Value.merged id)
  items : ∀ depth s, readItems? fuel depth s =
    (readWrittenItems? fuel depth s).map (Prod.map (List.map Value.merged) id)
  members : ∀ depth s, readMembers? fuel depth s =
    (readWrittenMembers? fuel depth s).map (Prod.map (List.map (Prod.map id Value.merged)) id)

theorem readsMerged (fuel : Nat) : ReadsMerged fuel := by
  induction fuel with
  | zero =>
    exact ⟨by simp [readValue?, readWritten?], by simp [readItems?, readWrittenItems?],
      by simp [readMembers?, readWrittenMembers?]⟩
  | succ fuel ih =>
    refine ⟨fun depth s => ?_, fun depth s => ?_, fun depth s => ?_⟩
    · rw [readValue?.eq_def, readWritten?.eq_def]
      dsimp only
      split
      · rename_i rest
        obtain ⟨after, hAfter⟩ : ∃ after, skipSpace rest = after := ⟨_, rfl⟩
        simp only [hAfter]
        split <;> simp [ih.items, Function.comp_def]
      · rename_i rest
        obtain ⟨after, hAfter⟩ : ∃ after, skipSpace rest = after := ⟨_, rfl⟩
        simp only [hAfter]
        split <;> simp [ih.members, Value.ofMembers, Function.comp_def]
      · simp [Function.comp_def]
    · rw [readItems?, readWrittenItems?, ih.value]
      cases readWritten? fuel depth s with
      | none => rfl
      | some read =>
        obtain ⟨value, rest⟩ := read
        simp only [Option.map_some, Prod.map, id]
        generalize skipSpace rest = after
        split <;> simp [ih.items, Function.comp_def]
    · rw [readMembers?, readWrittenMembers?]
      cases readMembers?.readKey? s with
      | none => rfl
      | some read =>
        obtain ⟨key, rest⟩ := read
        simp only [ih.value]
        cases readWritten? fuel depth rest with
        | none => rfl
        | some read =>
          obtain ⟨value, rest⟩ := read
          simp only [Option.map_some, Prod.map, id]
          generalize skipSpace rest = after
          split <;> simp [ih.members, Function.comp_def]

theorem ofChars?_eq_written (s : List Char) : ofChars? s = (writtenOfChars? s).map Value.merged := by
  rw [ofChars?, writtenOfChars?, (readsMerged _).value]
  cases readWritten? (2 * s.length + 2) greatestDepth (skipSpace s) with
  | none => rfl
  | some read =>
    simp only [Option.map_some, Prod.map, id]
    split <;> rfl

/-- The value of a text is its written value, merged. -/
theorem ofBytes?_eq_written (bytes : List UInt8) :
    ofBytes? bytes = (written? bytes).map Value.merged := by
  rw [ofBytes?, written?, Option.map_bind]
  congr 1
  funext s
  exact ofChars?_eq_written s

end Json

end TelemetryLog
