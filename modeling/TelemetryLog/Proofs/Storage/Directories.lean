import TelemetryLog.Proofs.Storage.File

/-! Which directories there are. Putting a leaf in a directory makes no other directory than that
leaf, so making the directories for a path adds only such as stand on the way to it, where nothing
stood before; and where a path leads to, the directories on the way are all there. -/

namespace TelemetryLog

/-- Every directory was there before a leaf was put in one, or is that leaf. -/
theorem Node.HasDirectory.of_put {node new : Node} {parent : Location} {name : String}
    (hParent : node.HasDirectory parent) (hLeaf : new.IsLeaf) {location : Location}
    (h : (node.put new (parent ++ [name])).HasDirectory location) :
    node.HasDirectory location ∨
      location = parent ++ [name] ∧ ∃ entries, new = .directory entries := by
  induction parent generalizing node location with
  | nil =>
    obtain ⟨entries, rfl⟩ := hParent.eq_directory
    cases location with
    | nil => exact .inl hParent
    | cons other rest =>
      obtain ⟨below, hBelow, hRest⟩ := hasDirectory_cons.mp h
      rw [List.nil_append, entry?_put] at hBelow
      split at hBelow
      · rename_i hOther
        subst hOther
        obtain rfl : new = below := by simpa [put] using hBelow
        cases rest with
        | nil => exact .inr ⟨rfl, hasDirectory_nil.mp hRest⟩
        | cons next rest =>
          obtain ⟨inner, hInner, -⟩ := hasDirectory_cons.mp hRest
          rw [hLeaf next] at hInner
          cases hInner
      · exact .inl (hasDirectory_cons.mpr ⟨below, hBelow, hRest⟩)
  | cons first parent ih =>
    obtain ⟨entries, rfl⟩ := hParent.eq_directory
    obtain ⟨old, hOld, hInner⟩ := hasDirectory_cons.mp hParent
    cases location with
    | nil => exact .inl (hasDirectory_nil.mpr ⟨entries, rfl⟩)
    | cons other rest =>
      obtain ⟨below, hBelow, hRest⟩ := hasDirectory_cons.mp h
      rw [List.cons_append, entry?_put] at hBelow
      split at hBelow
      · rename_i hOther
        subst hOther
        rw [directory_entry] at hOld
        rw [hOld] at hBelow
        cases hBelow
        rcases ih hInner hRest with hBefore | ⟨rfl, hNew⟩
        · exact .inl (hasDirectory_cons.mpr ⟨old, hOld, hBefore⟩)
        · exact .inr ⟨rfl, hNew⟩
      · exact .inl (hasDirectory_cons.mpr ⟨below, hBelow, hRest⟩)

namespace Tree

/-- Some of the names of a path, from its start on, lead to a location. -/
def OnWay (tree : Tree) (path : Path) (here : Location) : Prop :=
  ∃ parts, parts <+: path.parts ∧ tree.follow [] (tree.origin path ++ parts) = .ok here

/-- The tree `after` is `before` with directories added on the way to a path, where nothing stood:
the files and the other directories are the same. -/
structure AddsOnly (path : Path) (before after : Tree) : Prop where
  base : after.base = before.base
  files : ∀ here, after.content? here = before.content? here
  kept : ∀ here, before.HasDirectory here → after.HasDirectory here
  added : ∀ here, after.HasDirectory here →
    before.HasDirectory here ∨ before.node? here = none ∧ after.OnWay path here

variable {before between after tree : Tree} {path : Path} {here : Location}

theorem Furnished.onWay (h : Furnished before after) (hOnWay : before.OnWay path here) :
    after.OnWay path here := by
  obtain ⟨parts, hParts, hFollow⟩ := hOnWay
  refine ⟨parts, hParts, ?_⟩
  rw [origin, h.base]
  exact follow_mono h.directories hFollow

/-- Where there is neither a file nor a directory, nothing stands. -/
theorem node?_eq_none_iff :
    tree.node? here = none ↔ tree.content? here = none ∧ ¬ tree.HasDirectory here := by
  rw [hasDirectory_iff, content?]
  cases tree.node? here with
  | none => simp
  | some node => cases node <;> simp [Node.content?]

theorem Furnished.node?_eq_none (h : Furnished before after) (hAfter : after.node? here = none) :
    before.node? here = none := by
  obtain ⟨hContent, hDirectory⟩ := node?_eq_none_iff.mp hAfter
  refine node?_eq_none_iff.mpr ⟨(h.files here).symm.trans hContent, fun hBefore => ?_⟩
  exact hDirectory (h.directories here hBefore)

/-- A directory that is added on the way to a path is the only one that is new. -/
theorem hasDirectory_of_addsOnWay (hAdds : AddsOnWay path before after)
    (h : after.HasDirectory here) :
    before.HasDirectory here ∨ before.node? here = none ∧ after.OnWay path here := by
  obtain ⟨parts, hParts, hAdd⟩ := hAdds
  have hFurnished := Furnished.addDirectory hAdd
  obtain ⟨parent, name, hLocate, hNone, hParent, rfl⟩ := addDirectory_eq_ok hAdd
  rcases Node.HasDirectory.of_put hParent Node.isLeaf_emptyDirectory h with hBefore | ⟨rfl, -⟩
  · exact .inl hBefore
  · exact .inr ⟨hNone, hFurnished.onWay ⟨parts, hParts, (locate_eq_ok_iff.mp hLocate).2⟩⟩

/-- Adding directories on the way, one after another, does nothing else. -/
theorem AddsOnly.of_addedOnWay (h : AddedOnWay path before after) : AddsOnly path before after := by
  have hFurnished := Furnished.of_addedOnWay h
  refine ⟨hFurnished.base, hFurnished.files, hFurnished.directories, ?_⟩
  induction h with
  | refl => exact fun here hHere => .inl hHere
  | tail hEarlier hStep ih =>
    intro here hHere
    have hBefore := Furnished.of_addedOnWay hEarlier
    have hLast := Furnished.of_addedOnWay (.single hStep)
    rcases hasDirectory_of_addsOnWay hStep hHere with hBetween | ⟨hNone, hOnWay⟩
    · rcases ih hBefore here hBetween with hFirst | ⟨hNone, hOnWay⟩
      · exact .inl hFirst
      · exact .inr ⟨hNone, hLast.onWay hOnWay⟩
    · exact .inr ⟨hBefore.node?_eq_none hNone, hOnWay⟩

/-- A file that is put where a path leads makes no directory. -/
theorem HasDirectory.of_set_file {text : String} {there : Location}
    (hLocate : tree.locate path = .ok here)
    (h : (tree.set here (.file text)).HasDirectory there) : tree.HasDirectory there := by
  rcases exists_parent_of_locate hLocate with rfl | ⟨parent, name, rfl, hParent⟩
  · obtain ⟨entries, hRoot⟩ := Node.HasDirectory.eq_directory h
    cases hRoot
  · rcases Node.HasDirectory.of_put hParent (Node.isLeaf_file text) h with hBefore | ⟨-, hFile⟩
    · exact hBefore
    · obtain ⟨entries, hFile⟩ := hFile
      cases hFile

/-- Where a path leads to, each location that it passes before is a directory. -/
theorem hasDirectory_of_locate (h : tree.locate path = .ok here) {parts : List String}
    (hParts : parts <+: path.parts) (hLess : parts ≠ path.parts) :
    ∃ there, tree.follow [] (tree.origin path ++ parts) = .ok there ∧ tree.HasDirectory there := by
  obtain ⟨rest, hRest⟩ := hParts
  have hFollow := (locate_eq_ok_iff.mp h).2
  rw [← hRest, ← List.append_assoc, follow_append] at hFollow
  cases hThere : tree.follow [] (tree.origin path ++ parts) with
  | error cause =>
    rw [hThere] at hFollow
    cases hFollow
  | ok there =>
    rw [hThere] at hFollow
    cases rest with
    | nil => exact absurd (by simpa using hRest) hLess
    | cons name rest => exact ⟨there, rfl, .of_follow hFollow⟩

end Tree

end TelemetryLog
