import Mathlib.Data.List.Basic
import TelemetryLog.Storage.Node

/-! What stands where once a leaf, which is a file or an empty directory, has been put at a
location. Where directories lead to the location and none stands there, the leaf is found at it,
every other file keeps its content, and every directory stays one. -/

namespace TelemetryLog.Node

theorem lookup_cons_eq_ite (name other : String) (node : Node) (entries : List (String × Node)) :
    List.lookup other ((name, node) :: entries) =
      if other = name then some node else entries.lookup other := by
  by_cases h : other = name
  · simp [h]
  · simp [List.lookup_cons, beq_eq_false_iff_ne.mpr h, h]

theorem lookup_setEntry (name other : String) (node : Node) (entries : List (String × Node)) :
    (setEntry name node entries).lookup other =
      if other = name then some node else entries.lookup other := by
  induction entries with
  | nil => exact lookup_cons_eq_ite name other node []
  | cons entry rest ih =>
    obtain ⟨first, old⟩ := entry
    by_cases hFirst : first = name
    · subst hFirst
      simp only [setEntry, if_true, lookup_cons_eq_ite]
      split <;> rfl
    · simp only [setEntry, hFirst, if_false, lookup_cons_eq_ite, ih]
      by_cases h : other = first
      · subst h
        simp [hFirst]
      · simp [h]

def contentAt? (node : Node) (location : Location) : Option String :=
  (node.at? location).bind content?

def HasDirectory (node : Node) (location : Location) : Prop :=
  ∃ entries, node.at? location = some (.directory entries)

def IsLeaf (node : Node) : Prop := ∀ name, node.entry? name = none

theorem isLeaf_file (content : String) : (file content).IsLeaf := fun _ => rfl

theorem isLeaf_emptyDirectory : emptyDirectory.IsLeaf := fun _ => rfl

theorem directory_entry (entries : List (String × Node)) (name : String) :
    entry? name (directory entries) = entries.lookup name := rfl

@[simp] theorem at?_nil (node : Node) : node.at? [] = some node := by
  cases node <;> rfl

theorem at?_cons (node : Node) (name : String) (rest : Location) :
    node.at? (name :: rest) = ( node.entry? name).bind (·.at? rest) := by
  rw [at?]
  cases node.entry? name <;> rfl

theorem at?_append (node : Node) (start rest : Location) :
    node.at? (start ++ rest) = (node.at? start).bind (·.at? rest) := by
  induction start generalizing node with
  | nil => simp
  | cons name start ih =>
    rw [List.cons_append, at?_cons, at?_cons]
    cases node.entry? name with
    | none => rfl
    | some below => exact ih below

/-- What has something in it is a directory. -/
theorem HasDirectory.of_at? {node found : Node} {parent : Location} {name : String}
    (h : node.at? (parent ++ [name]) = some found) : node.HasDirectory parent := by
  rw [at?_append] at h
  cases hAt : node.at? parent with
  | none => simp [hAt] at h
  | some above =>
    cases above with
    | file content => simp [hAt, at?_cons, entry?] at h
    | directory entries => exact ⟨entries, hAt⟩

theorem hasDirectory_nil {node : Node} :
    node.HasDirectory [] ↔ ∃ entries, node = .directory entries := by
  simp [HasDirectory]

theorem hasDirectory_cons {node : Node} {name : String} {rest : Location} :
    node.HasDirectory (name :: rest) ↔
      ∃ below, node.entry? name = some below ∧ below.HasDirectory rest := by
  simp only [HasDirectory, at?_cons]
  cases node.entry? name <;> simp

theorem contentAt?_cons (node : Node) (name : String) (rest : Location) :
    node.contentAt? (name :: rest) = ( node.entry? name).bind (·.contentAt? rest) := by
  rw [contentAt?, at?_cons]
  cases node.entry? name <;> rfl

/-- The way to a directory starts at one. -/
theorem HasDirectory.eq_directory {node : Node} {location : Location}
    (h : node.HasDirectory location) : ∃ entries, node = .directory entries := by
  cases location with
  | nil => exact hasDirectory_nil.mp h
  | cons name rest =>
    obtain ⟨below, hBelow, -⟩ := hasDirectory_cons.mp h
    cases node with
    | file content => cases hBelow
    | directory entries => exact ⟨entries, rfl⟩

/-- Only below a directory there are files. -/
theorem contentAt?_below {node : Node} {location : Location} {name : String} {rest : Location}
    (h : ¬ node.HasDirectory location) : node.contentAt? (location ++ name :: rest) = none := by
  rw [contentAt?, at?_append]
  cases hAt : node.at? location with
  | none => rfl
  | some found =>
    cases found with
    | file content => rfl
    | directory entries => exact absurd ⟨entries, hAt⟩ h

theorem entry?_put (entries : List (String × Node)) (new : Node) (name other : String)
    (rest : Location) :
    entry? other ((directory entries).put new (name :: rest)) =
      if other = name then some (((entries.lookup name).getD emptyDirectory).put new rest)
      else entries.lookup other :=
  lookup_setEntry name other _ entries

section Put

variable {node new : Node} {parent : Location} {name : String}

theorem at?_put (hParent : node.HasDirectory parent) :
    (node.put new (parent ++ [name])).at? (parent ++ [name]) = some new := by
  induction parent generalizing node with
  | nil =>
    obtain ⟨entries, rfl⟩ := hParent.eq_directory
    rw [List.nil_append, at?_cons, entry?_put, if_pos rfl]
    simp [put]
  | cons first parent ih =>
    obtain ⟨entries, rfl⟩ := hParent.eq_directory
    obtain ⟨below, hBelow, hInner⟩ := hasDirectory_cons.mp hParent
    rw [directory_entry] at hBelow
    rw [List.cons_append, at?_cons, entry?_put, if_pos rfl, hBelow]
    exact ih hInner

theorem contentAt?_put_below (hParent : node.HasDirectory parent) (hLeaf : new.IsLeaf)
    (hOld : ¬ node.HasDirectory (parent ++ [name])) (location : Location) :
    (node.put new (parent ++ [name])).contentAt? location =
      if location = parent ++ [name] then new.content? else node.contentAt? location := by
  induction parent generalizing node location with
  | nil =>
    obtain ⟨entries, rfl⟩ := hParent.eq_directory
    cases location with
    | nil => simp [put, contentAt?, content?]
    | cons other rest =>
      rw [List.nil_append, contentAt?_cons, entry?_put]
      by_cases hOther : other = name
      · subst hOther
        cases rest with
        | nil => simp [put, contentAt?]
        | cons next rest =>
          -- There was no directory at the name, so nothing below it is lost.
          have hGone : (directory entries).contentAt? (other :: next :: rest) = none :=
            contentAt?_below hOld
          simp [put, hGone, contentAt?_cons, hLeaf next]
      · simp [hOther, contentAt?_cons, directory_entry]
  | cons first parent ih =>
    obtain ⟨entries, rfl⟩ := hParent.eq_directory
    obtain ⟨below, hBelow, hInner⟩ := hasDirectory_cons.mp hParent
    rw [List.cons_append, hasDirectory_cons, hBelow] at hOld
    rw [directory_entry] at hBelow
    cases location with
    | nil => simp [put, contentAt?, content?]
    | cons other rest =>
      rw [List.cons_append, contentAt?_cons, entry?_put]
      by_cases hOther : other = first
      · subst hOther
        simpa [contentAt?_cons, directory_entry, hBelow] using
          ih hInner (fun h => hOld ⟨below, rfl, h⟩) rest
      · simp [hOther, contentAt?_cons, directory_entry]

theorem HasDirectory.put_below {location : Location} (h : node.HasDirectory location)
    (hParent : node.HasDirectory parent) (hOld : ¬ node.HasDirectory (parent ++ [name])) :
    (node.put new (parent ++ [name])).HasDirectory location := by
  induction parent generalizing node location with
  | nil =>
    obtain ⟨entries, rfl⟩ := hParent.eq_directory
    cases location with
    | nil => exact hasDirectory_nil.mpr ⟨_, rfl⟩
    | cons other rest =>
      obtain ⟨below, hBelow, hRest⟩ := hasDirectory_cons.mp h
      have hOther : other ≠ name := by
        rintro rfl
        obtain ⟨inner, rfl⟩ := hRest.eq_directory
        exact hOld (hasDirectory_cons.mpr ⟨_, hBelow, hasDirectory_nil.mpr ⟨inner, rfl⟩⟩)
      rw [List.nil_append, hasDirectory_cons, entry?_put, if_neg hOther]
      exact ⟨below, hBelow, hRest⟩
  | cons first parent ih =>
    obtain ⟨entries, rfl⟩ := hParent.eq_directory
    obtain ⟨below, hBelow, hInner⟩ := hasDirectory_cons.mp hParent
    rw [List.cons_append, hasDirectory_cons, hBelow] at hOld
    cases location with
    | nil => exact hasDirectory_nil.mpr ⟨_, rfl⟩
    | cons other rest =>
      obtain ⟨found, hFound, hRest⟩ := hasDirectory_cons.mp h
      rw [List.cons_append, hasDirectory_cons, entry?_put]
      by_cases hOther : other = first
      · subst hOther
        obtain rfl : below = found := by simpa [hBelow] using hFound
        rw [directory_entry] at hBelow
        rw [if_pos rfl, hBelow]
        exact ⟨_, rfl, ih hRest hInner fun h => hOld ⟨below, rfl, h⟩⟩
      · rw [if_neg hOther]
        exact ⟨found, hFound, hRest⟩

end Put

end TelemetryLog.Node
