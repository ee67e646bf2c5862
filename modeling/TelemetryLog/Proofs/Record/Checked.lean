import Mathlib.Data.List.Forall2
import TelemetryLog.Record.Conversion

/-! Checked results. For each way to put them together it is said when there is a result, what is
wrong if there is none, and when something is wrong that cannot be put to words; lists are read
accordingly. -/

namespace TelemetryLog

/-- A violation of a part, as a violation of the value that has the part at a place. -/
def Violation.below (place : List Step) (v : Violation) : Violation :=
  ⟨place ++ v.place, v.complaint⟩

namespace Checked

variable {α β : Type}

/-- All that is wrong; nothing if there is a result. -/
def violations : Checked α → List Violation
  | .ok _ => []
  | .error vs => vs

theorem bind_eq_ok {r : Checked α} {next : α → Checked β} {b : β} :
    r >>= next = .ok b ↔ ∃ a, r = .ok a ∧ next a = .ok b := by
  cases r <;> simp [bind, Except.bind]

theorem map_eq_ok {f : α → β} {r : Checked α} {b : β} :
    r.map f = .ok b ↔ ∃ a, r = .ok a ∧ f a = b := by
  cases r <;> simp [Except.map]

theorem within_eq_ok {step : Step} {r : Checked α} {a : α} :
    within step r = .ok a ↔ r = .ok a := by
  cases r <;> simp [within]

theorem both_eq_ok {r : Checked α} {s : Checked β} {a : α} {b : β} :
    both r s = .ok (a, b) ↔ r = .ok a ∧ s = .ok b := by
  cases r <;> cases s <;> simp [both]

theorem all_eq_ok {rs : List (Checked α)} {as : List α} :
    all rs = .ok as ↔ List.Forall₂ (fun r a => r = .ok a) rs as := by
  induction rs generalizing as with
  | nil => cases as <;> simp [all]
  | cons r rs ih =>
    rw [all, map_eq_ok, List.forall₂_cons_left_iff]
    constructor
    · rintro ⟨⟨a, rest⟩, hBoth, rfl⟩
      obtain ⟨hFirst, hRest⟩ := both_eq_ok.mp hBoth
      exact ⟨a, rest, hFirst, ih.mp hRest, rfl⟩
    · rintro ⟨a, rest, hFirst, hRest, rfl⟩
      exact ⟨(a, rest), both_eq_ok.mpr ⟨hFirst, ih.mpr hRest⟩, rfl⟩

section Untold

variable [Host]

/-- Whether one of the things that are wrong cannot be put to words. -/
def isUntold : Checked α → Bool
  | .ok _ => false
  | .error vs => vs.any (·.complaint.isTooDeep)

@[simp] theorem isUntold_ok (a : α) : isUntold (.ok a : Checked α) = false := rfl

@[simp] theorem isUntold_refuse (complaint : Complaint) :
    (refuse complaint : Checked α).isUntold = complaint.isTooDeep := by
  simp [refuse, isUntold]

@[simp] theorem isUntold_map (f : α → β) (r : Checked α) :
    Checked.isUntold (r.map f) = r.isUntold := by
  cases r <;> rfl

@[simp] theorem isUntold_within (step : Step) (r : Checked α) :
    (within step r).isUntold = r.isUntold := by
  cases r with
  | ok a => rfl
  | error vs => simp [within, isUntold, Function.comp_def]

@[simp] theorem isUntold_both (r : Checked α) (s : Checked β) :
    (both r s).isUntold = (r.isUntold || s.isUntold) := by
  cases r <;> cases s <;> simp [both, isUntold]

@[simp] theorem isUntold_all (rs : List (Checked α)) : (all rs).isUntold = rs.any isUntold := by
  induction rs with
  | nil => rfl
  | cons r rs ih => simp [all, ih]

end Untold

@[simp] theorem violations_ok (a : α) : violations (.ok a) = [] := rfl

@[simp] theorem violations_refuse (c : Complaint) :
    (refuse c : Checked α).violations = [⟨[], c⟩] := rfl

@[simp] theorem violations_map (f : α → β) (r : Checked α) :
    violations (r.map f) = r.violations := by
  cases r <;> rfl

@[simp] theorem violations_within (step : Step) (r : Checked α) :
    (within step r).violations = r.violations.map (.below [step]) := by
  cases r <;> rfl

@[simp] theorem violations_both (r : Checked α) (s : Checked β) :
    (both r s).violations = r.violations ++ s.violations := by
  cases r <;> cases s <;> simp [both, violations]

@[simp] theorem violations_all (rs : List (Checked α)) :
    (all rs).violations = rs.flatMap violations := by
  induction rs with
  | nil => rfl
  | cons r rs ih => simp [all, ih]

/-- There is a result, or a reason for there being none. -/
def HasReason (r : Checked α) : Prop := r ≠ .error []

variable {r : Checked α} {s : Checked β}

theorem HasReason.violations_eq_nil (h : r.HasReason) : r.violations = [] ↔ ∃ a, r = .ok a := by
  cases r with
  | ok a => simp
  | error vs =>
    have hSome : vs ≠ [] := fun hNil => h (hNil ▸ rfl)
    simpa [violations] using hSome

theorem hasReason_ok (a : α) : HasReason (.ok a) := nofun

theorem hasReason_refuse (c : Complaint) : (refuse c : Checked α).HasReason := nofun

theorem HasReason.map (h : r.HasReason) (f : α → β) : HasReason (r.map f) := by
  cases r with
  | ok a => exact hasReason_ok _
  | error vs => exact fun hNil => h (by cases hNil; rfl)

theorem HasReason.within (h : r.HasReason) (step : Step) : (within step r).HasReason := by
  cases r with
  | ok a => exact hasReason_ok a
  | error vs => simpa [HasReason, Checked.within] using h

theorem HasReason.both (hr : r.HasReason) (hs : s.HasReason) : (both r s).HasReason := by
  cases r with
  | ok a =>
    cases s with
    | ok b => exact hasReason_ok _
    | error ws => exact fun hNil => hs (by cases hNil; rfl)
  | error vs =>
    cases s with
    | ok b => exact fun hNil => hr (by cases hNil; rfl)
    | error ws => simp_all [HasReason, Checked.both]

theorem hasReason_all {rs : List (Checked α)} (h : ∀ r ∈ rs, r.HasReason) :
    (all rs).HasReason := by
  induction rs with
  | nil => exact hasReason_ok _
  | cons r rs ih =>
    rw [List.forall_mem_cons] at h
    exact (h.1.both (ih h.2)).map _

end Checked

namespace Value

variable {α : Type} {read : Value → Checked α}

theorem toMembers_eq_ok {form : Form} {value : Value} {members : List (Scalar × Value)} :
    value.toMembers form = .ok members ↔ value = .object members := by
  cases value <;> simp [toMembers, Checked.refuse]

/-- What comes of a list depends on its items only through what comes of each. -/
theorem toList_array (read : Value → Checked α) (items : List Value) :
    toList read (.array items) =
      .all ((items.map read).mapIdx fun i r => .within (.item i) r) := by
  rw [toList, List.mapIdx_eq_zipIdx_map, List.mapIdx_eq_zipIdx_map, List.zipIdx_map, List.map_map]
  rfl

/-- A list is read when each of its items is, in order. -/
theorem toList_eq_ok {value : Value} {as : List α} :
    value.toList read = .ok as ↔
      ∃ items, value = .array items ∧ List.Forall₂ (fun item a => read item = .ok a) items as := by
  cases value with
  | array items =>
    have hFirsts : items.zipIdx.map Prod.fst = items := List.zipIdx_map_fst 0 items
    simp only [toList, Checked.all_eq_ok, List.mapIdx_eq_zipIdx_map, List.forall₂_map_left_iff,
      Checked.within_eq_ok, array.injEq, exists_eq_left']
    rw [← List.forall₂_map_left_iff (R := fun item a => read item = .ok a), hFirsts]
  | scalar | object => simp [toList, Checked.refuse]

theorem isUntold_toList_array [Host] (items : List Value) :
    (toList read (.array items)).isUntold = items.any fun item => (read item).isUntold := by
  have hFirsts : items.zipIdx.map Prod.fst = items := List.zipIdx_map_fst 0 items
  rw [toList, Checked.isUntold_all, List.mapIdx_eq_zipIdx_map, List.any_map]
  simp only [Function.comp_def, Checked.isUntold_within]
  conv => rhs; rw [← hFirsts, List.any_map]
  rfl

theorem hasReason_toOptional (h : ∀ value, (read value).HasReason) (value : Value) :
    (value.toOptional read).HasReason := by
  unfold toOptional
  split
  · exact Checked.hasReason_ok _
  · exact (h value).map _

theorem hasReason_toList (h : ∀ value, (read value).HasReason) (value : Value) :
    (value.toList read).HasReason := by
  cases value with
  | scalar | object => exact Checked.hasReason_refuse _
  | array items =>
    refine Checked.hasReason_all fun r hMember => ?_
    obtain ⟨i, hi, rfl⟩ := List.mem_mapIdx.mp hMember
    exact (h _).within _

end Value

end TelemetryLog
