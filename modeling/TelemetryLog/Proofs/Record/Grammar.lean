import Mathlib.Data.List.Forall2
import TelemetryLog.Record.Batch

/-! The grammar of data records. `IsBatch` says which values are data records, field by field and
with no regard to how they are read; `Batch.Describes` says which batch is the record of a value.
The values that some batch describes are those of the grammar. -/

namespace TelemetryLog

variable {α : Type}

/-- A field of an object, if it is there, is as `p` says. -/
def MayHave (members : List (Scalar × Value)) (name : String) (p : Value → Prop) : Prop :=
  ∀ value, field? name members = some value → p value

/-- A field of an object is there and is as `p` says. -/
def Has (members : List (Scalar × Value)) (name : String) (p : Value → Prop) : Prop :=
  ∃ value, field? name members = some value ∧ p value

/-- A field of an object stands for `a`, or is not there and `a` is the usual one. -/
def StandsFor (members : List (Scalar × Value)) (name : String) (usual : α)
    (p : α → Value → Prop) (a : α) : Prop :=
  match field? name members with
  | some value => p a value
  | none => a = usual

namespace Value

def IsObject (p : List (Scalar × Value) → Prop) (value : Value) : Prop :=
  ∃ members, value = .object members ∧ p members

def IsListOf (p : Value → Prop) (value : Value) : Prop :=
  ∃ items, value = .array items ∧ ∀ item ∈ items, p item

def IsText (value : Value) : Prop := ∃ s, value = .text s

def IsNullOr (p : Value → Prop) (value : Value) : Prop := value = .scalar .null ∨ p value

/-- A value that can stand for what `read` reads. -/
def Converts (read : Value → Checked α) (value : Value) : Prop := ∃ a, read value = .ok a

/-- A number of a text; a truth value is none. -/
def IsNumeral (value : Value) : Prop :=
  (∃ i, value = .scalar (.int i)) ∨ ∃ x, value = .scalar (.number x)

def IsColumn : Value → Prop := IsObject fun members =>
  MayHave members "name" IsText ∧
    MayHave members "type" (IsNullOr IsText) ∧
    MayHave members "process" (IsNullOr IsText) ∧
    MayHave members "settable" (Converts toBool)

def IsHead : Value → Prop := IsObject fun members =>
  MayHave members "transaction" (IsNullOr (Converts toInteger)) ∧
    MayHave members "signature" (IsNullOr (Converts toInteger)) ∧
    Has members "fields" (IsListOf IsColumn)

def IsSample : Value → Prop := IsObject fun members =>
  Has members "time" (Converts toTime) ∧ Has members "vals" (IsListOf IsNumeral)

def IsBatch : Value → Prop := IsObject fun members =>
  Has members "head" IsHead ∧
    Has members "data" fun data => IsListOf IsSample data ∧ data ≠ .array []

/-- A list whose items stand for those of `as`, one for each and in the same order. -/
def Lists (p : α → Value → Prop) (as : List α) (value : Value) : Prop :=
  ∃ items, value = .array items ∧ List.Forall₂ (fun item a => p a item) items as

def IsTextOf (s : String) (value : Value) : Prop := value = .text s

def OrNull (p : α → Value → Prop) (a : Option α) (value : Value) : Prop :=
  match a with
  | some a => p a value
  | none => value = .scalar .null

def ReadBy (read : Value → Checked α) (a : α) (value : Value) : Prop := read value = .ok a

/-- The number `x`, or the integer that it is nearest to. -/
def IsNumeralOf (x : Binary64) (value : Value) : Prop :=
  value = .scalar (.number x) ∨ ∃ i, value = .scalar (.int i) ∧ x = .ofInt i

end Value

open Value

def Column.Describes (column : Column) : Value → Prop := IsObject fun members =>
  StandsFor members "name" "" IsTextOf column.name ∧
    StandsFor members "type" none (OrNull IsTextOf) column.type ∧
    StandsFor members "process" none (OrNull IsTextOf) column.process ∧
    StandsFor members "settable" false (ReadBy toBool) column.settable

def Head.Describes (head : Head) : Value → Prop := IsObject fun members =>
  StandsFor members "transaction" none (OrNull (ReadBy toInteger)) head.transaction ∧
    StandsFor members "signature" none (OrNull (ReadBy toInteger)) head.signature ∧
    Has members "fields" (Lists Column.Describes head.columns)

def Sample.Describes (sample : Sample) : Value → Prop := IsObject fun members =>
  Has members "time" (ReadBy toTime sample.time) ∧
    Has members "vals" (Lists IsNumeralOf sample.values)

def Batch.Describes (batch : Batch) : Value → Prop := IsObject fun members =>
  Has members "head" batch.head.Describes ∧
    Has members "data" (Lists Sample.Describes batch.samples)

section Fields

variable {members : List (Scalar × Value)} {name : String} {p : α → Value → Prop}
  {q : Value → Prop}

theorem exists_standsFor (usual : α) (h : ∀ value, (∃ a, p a value) ↔ q value) :
    (∃ a, StandsFor members name usual p a) ↔ MayHave members name q := by
  rw [MayHave]
  simp only [StandsFor]
  cases hField : field? name members with
  | none => simp
  | some value => simpa using h value

theorem exists_has (h : ∀ value, (∃ a, p a value) ↔ q value) :
    (∃ a, Has members name (p a)) ↔ Has members name q := by
  simp only [Has, ← h]
  constructor
  · rintro ⟨a, value, hField, ha⟩
    exact ⟨value, hField, a, ha⟩
  · rintro ⟨value, hField, a, ha⟩
    exact ⟨a, value, hField, ha⟩

end Fields

theorem exists_forall₂ {β : Type} {r : α → β → Prop} {l : List α} :
    (∃ l', List.Forall₂ r l l') ↔ ∀ x ∈ l, ∃ y, r x y := by
  induction l with
  | nil => simp
  | cons x l ih =>
    rw [List.forall_mem_cons, ← ih]
    simp only [List.forall₂_cons_left_iff]
    constructor
    · rintro ⟨_, y, l', hFirst, hRest, rfl⟩
      exact ⟨⟨y, hFirst⟩, l', hRest⟩
    · rintro ⟨⟨y, hFirst⟩, l', hRest⟩
      exact ⟨_, y, l', hFirst, hRest, rfl⟩

namespace Value

variable {p : α → Value → Prop} {q : Value → Prop}

theorem exists_orNull (h : ∀ value, (∃ a, p a value) ↔ q value) (value : Value) :
    (∃ a, OrNull p a value) ↔ IsNullOr q value := by
  rw [Option.exists, IsNullOr, ← h]
  rfl

theorem exists_orNullField {members : List (Scalar × Value)} {name : String}
    (h : ∀ value, (∃ a, p a value) ↔ q value) :
    (∃ a, StandsFor members name none (OrNull p) a) ↔ MayHave members name (IsNullOr q) :=
  exists_standsFor none (exists_orNull h)

theorem exists_lists (h : ∀ value, (∃ a, p a value) ↔ q value) (value : Value) :
    (∃ as, Lists p as value) ↔ IsListOf q value := by
  simp only [Lists, IsListOf, ← h, ← exists_forall₂]
  constructor
  · rintro ⟨as, items, hItems, hAll⟩
    exact ⟨items, hItems, as, hAll⟩
  · rintro ⟨items, hItems, as, hAll⟩
    exact ⟨as, items, hItems, hAll⟩

theorem exists_isNumeralOf (value : Value) : (∃ x, IsNumeralOf x value) ↔ IsNumeral value := by
  constructor
  · rintro ⟨x, hNumber | ⟨i, hInteger, -⟩⟩
    · exact .inr ⟨x, hNumber⟩
    · exact .inl ⟨i, hInteger⟩
  · rintro (⟨i, hInteger⟩ | ⟨x, hNumber⟩)
    · exact ⟨_, .inr ⟨i, hInteger, rfl⟩⟩
    · exact ⟨x, .inl hNumber⟩

theorem exists_column (value : Value) :
    (∃ column : Column, column.Describes value) ↔ IsColumn value := by
  constructor
  · rintro ⟨column, members, rfl, hName, hType, hProcess, hSettable⟩
    exact ⟨members, rfl, (exists_standsFor "" fun _ => Iff.rfl).mp ⟨_, hName⟩,
      (exists_orNullField fun _ => Iff.rfl).mp ⟨_, hType⟩,
      (exists_orNullField fun _ => Iff.rfl).mp ⟨_, hProcess⟩,
      (exists_standsFor false fun _ => Iff.rfl).mp ⟨_, hSettable⟩⟩
  · rintro ⟨members, rfl, hName, hType, hProcess, hSettable⟩
    obtain ⟨name, hName⟩ := (exists_standsFor "" fun _ => Iff.rfl).mpr hName
    obtain ⟨type, hType⟩ := (exists_orNullField fun _ => Iff.rfl).mpr hType
    obtain ⟨process, hProcess⟩ := (exists_orNullField fun _ => Iff.rfl).mpr hProcess
    obtain ⟨settable, hSettable⟩ := (exists_standsFor false fun _ => Iff.rfl).mpr hSettable
    exact ⟨⟨name, type, process, settable⟩, members, rfl, hName, hType, hProcess, hSettable⟩

theorem exists_head (value : Value) : (∃ head : Head, head.Describes value) ↔ IsHead value := by
  constructor
  · rintro ⟨head, members, rfl, hTransaction, hSignature, hFields⟩
    exact ⟨members, rfl,
      (exists_orNullField fun _ => Iff.rfl).mp ⟨_, hTransaction⟩,
      (exists_orNullField fun _ => Iff.rfl).mp ⟨_, hSignature⟩,
      (exists_has (exists_lists exists_column)).mp ⟨_, hFields⟩⟩
  · rintro ⟨members, rfl, hTransaction, hSignature, hFields⟩
    obtain ⟨transaction, hTransaction⟩ := (exists_orNullField fun _ => Iff.rfl).mpr hTransaction
    obtain ⟨signature, hSignature⟩ := (exists_orNullField fun _ => Iff.rfl).mpr hSignature
    obtain ⟨columns, hFields⟩ := (exists_has (exists_lists exists_column)).mpr hFields
    exact ⟨⟨transaction, signature, columns⟩, members, rfl, hTransaction, hSignature, hFields⟩

theorem exists_sample (value : Value) :
    (∃ sample : Sample, sample.Describes value) ↔ IsSample value := by
  constructor
  · rintro ⟨sample, members, rfl, hTime, hValues⟩
    exact ⟨members, rfl, (exists_has fun _ => Iff.rfl).mp ⟨_, hTime⟩,
      (exists_has (exists_lists exists_isNumeralOf)).mp ⟨_, hValues⟩⟩
  · rintro ⟨members, rfl, hTime, hValues⟩
    obtain ⟨time, hTime⟩ := (exists_has fun _ => Iff.rfl).mpr hTime
    obtain ⟨values, hValues⟩ := (exists_has (exists_lists exists_isNumeralOf)).mpr hValues
    exact ⟨⟨time, values⟩, members, rfl, hTime, hValues⟩

/-- The samples of a batch are listed by a value exactly when it is a list of samples and has one
at least. -/
theorem exists_samples (value : Value) :
    (∃ samples : Sample × List Sample, Lists Sample.Describes (samples.1 :: samples.2) value) ↔
      IsListOf IsSample value ∧ value ≠ .array [] := by
  constructor
  · rintro ⟨⟨first, others⟩, items, rfl, hAll⟩
    refine ⟨(exists_lists exists_sample _).mp ⟨_, items, rfl, hAll⟩, ?_⟩
    rintro ⟨⟩
    cases hAll
  · rintro ⟨hList, hSome⟩
    obtain ⟨samples, items, rfl, hAll⟩ := (exists_lists exists_sample value).mpr hList
    cases hAll with
    | nil => exact absurd rfl hSome
    | cons hFirst hOthers => exact ⟨(_, _), _, rfl, .cons hFirst hOthers⟩

theorem exists_batch (value : Value) :
    (∃ batch : Batch, batch.Describes value) ↔ IsBatch value := by
  constructor
  · rintro ⟨batch, members, rfl, hHead, hData⟩
    exact ⟨members, rfl, (exists_has exists_head).mp ⟨_, hHead⟩,
      (exists_has exists_samples).mp ⟨(batch.first, batch.others), hData⟩⟩
  · rintro ⟨members, rfl, hHead, hData⟩
    obtain ⟨head, hHead⟩ := (exists_has exists_head).mpr hHead
    obtain ⟨samples, hData⟩ := (exists_has exists_samples).mpr hData
    exact ⟨⟨head, samples.1, samples.2⟩, members, rfl, hHead, hData⟩

end Value

end TelemetryLog
