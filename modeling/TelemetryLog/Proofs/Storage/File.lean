import TelemetryLog.Proofs.Storage.Furnish

/-! The file of a path: it is read as before once the directory for it has been made, and a text
that is appended comes at its end, while every other file keeps its content. -/

namespace TelemetryLog.Tree

open Text

/-- Whether a path leads to a file or a directory. -/
def isThere (tree : Tree) (path : Path) : Bool :=
  match tree.find path with
  | .ok (some _) => true
  | _ => false

theorem isThere_of_locate {tree : Tree} {path : Path} {here : Location}
    (h : tree.locate path = .ok here) : tree.isThere path = (tree.node? here).isSome := by
  rw [isThere, find, h]
  cases hNode : tree.node? here <;> simp [hNode]

theorem isThere_eq_true_iff {tree : Tree} {path : Path} :
    tree.isThere path = true ↔ ∃ here, tree.locate path = .ok here ∧ (tree.node? here).isSome := by
  rw [isThere, find]
  cases tree.locate path with
  | ok here => cases hNode : tree.node? here <;> simp [hNode]
  | error cause => cases cause <;> simp

theorem readFile?_of_locate {tree : Tree} {path : Path} {here : Location}
    (h : tree.locate path = .ok here) : tree.readFile? path = tree.content? here := by
  rw [readFile?, h]

theorem readFile?_of_error {tree : Tree} {path : Path} {cause : StorageCause}
    (h : tree.locate path = .error cause) : tree.readFile? path = none := by
  rw [readFile?, h]

theorem isThere_of_readFile? {tree : Tree} {path : Path} {content : String}
    (h : tree.readFile? path = some content) : tree.isThere path = true := by
  cases hLocate : tree.locate path with
  | error cause => simp [readFile?_of_error hLocate] at h
  | ok here =>
    rw [readFile?_of_locate hLocate] at h
    rw [isThere_of_locate hLocate]
    exact Option.isSome_of_isSome_bind (Option.isSome_of_eq_some h)

theorem content?_of_none {tree : Tree} {here : Location} (h : tree.node? here = none) :
    tree.content? here = none := by
  rw [content?, h]
  rfl

theorem follow_of_none {tree : Tree} {here : Location} {name : String} {rest : List String}
    (h : tree.node? here = none) : tree.follow here (name :: rest) = .error .missing := by
  rw [follow, h]

/-- Names that go on from an empty directory lead to nothing. -/
theorem content?_of_follow_empty {tree : Tree} {here there : Location} {name : String}
    {rest : List String} (hHere : tree.node? here = some .emptyDirectory) (hName : name ≠ "..")
    (h : tree.follow here (name :: rest) = .ok there) : tree.content? there = none := by
  have hBelow : tree.node? (here ++ [name]) = none := by
    rw [node?] at hHere
    rw [node?, Node.at?_append, hHere]
    rfl
  rw [Node.emptyDirectory] at hHere
  simp only [follow, hHere, if_neg hName] at h
  split at h
  · cases h
  · cases rest with
    | nil =>
      cases h
      exact content?_of_none hBelow
    | cons next rest => simp [follow_of_none hBelow] at h

/-- With a directory that is added on its way a path leads to a file only where it did before. -/
theorem readFile?_addDirectory {tree after : Tree} {path : Path} {parts : List String}
    (hPlain : ".." ∉ path.parts) (hParts : parts <+: path.parts)
    (h : tree.addDirectory ⟨path.start, parts⟩ = .ok after) :
    after.readFile? path = tree.readFile? path := by
  have hFurnished := Furnished.addDirectory h
  cases hBefore : tree.locate path with
  | ok here =>
    rw [readFile?_of_locate hBefore, readFile?_of_locate (hFurnished.locate hBefore),
      hFurnished.files here]
  | error cause =>
    rw [readFile?_of_error hBefore]
    cases hAfter : after.locate path with
    | error cause' => exact readFile?_of_error hAfter
    | ok there =>
      rw [readFile?_of_locate hAfter]
      obtain ⟨parent, last, hLocate, -, hParent, rfl⟩ := addDirectory_eq_ok h
      obtain ⟨hShort, hThere⟩ := locate_eq_ok_iff.mp hAfter
      have hFollow := (locate_eq_ok_iff.mp hLocate).2
      have hOn := follow_append_of_ok (follow_mono hFurnished.directories hFollow)
      obtain ⟨rest, hRest⟩ := hParts
      cases rest with
      | nil =>
        -- The new directory is where the path leads, so it could be located before.
        obtain rfl : parts = path.parts := by simpa using hRest
        exact absurd (hBefore.symm.trans (locate_eq_ok_iff.mpr ⟨hShort, hFollow⟩)) (by simp)
      | cons name rest =>
        have hName : name ≠ ".." := by
          rintro rfl
          exact hPlain (hRest ▸ by simp)
        have hOrigin : (tree.set (parent ++ [last]) .emptyDirectory).origin path ++ path.parts =
            tree.origin ⟨path.start, parts⟩ ++ parts ++ name :: rest := by
          rw [← hRest, List.append_assoc]
          rfl
        rw [hOrigin, hOn] at hThere
        exact content?_of_follow_empty (Node.at?_put hParent) hName hThere

/-- Directories that are added on the way to a path without two points leave what is read there as
it is. -/
theorem readFile?_of_addedOnWay {before after : Tree} {path : Path} (hPlain : ".." ∉ path.parts)
    (h : AddedOnWay path.parent before after) : after.readFile? path = before.readFile? path := by
  induction h with
  | refl => rfl
  | tail _ hStep ih =>
    obtain ⟨parts, hParts, hAdd⟩ := hStep
    have hWay : parts <+: path.parts := hParts.trans (List.dropLast_prefix path.parts)
    exact (readFile?_addDirectory hPlain hWay hAdd).trans ih

/-- A location that a path leads to is the root, or in a directory. -/
theorem exists_parent_of_locate {tree : Tree} {path : Path} {here : Location}
    (h : tree.locate path = .ok here) :
    here = [] ∨ ∃ parent name, here = parent ++ [name] ∧ tree.HasDirectory parent := by
  cases hNode : tree.node? here with
  | none => exact .inr (HasDirectory.of_missing (locate_eq_ok_iff.mp h).2 (by simp [node?]) hNode)
  | some node =>
    rcases List.eq_nil_or_concat here with rfl | ⟨parent, name, rfl⟩
    · exact .inl rfl
    · rw [List.concat_eq_append] at hNode ⊢
      exact .inr ⟨parent, name, rfl, .of_at? hNode⟩

section SetFile

variable {tree : Tree} {path : Path} {here : Location} {text : String}

/-- A file that is put where a path leads, but not in the place of a directory. -/
theorem content?_set_file (hLocate : tree.locate path = .ok here)
    (hOld : ¬ tree.HasDirectory here) (there : Location) :
    (tree.set here (.file text)).content? there =
      if there = here then some text else tree.content? there := by
  rcases exists_parent_of_locate hLocate with rfl | ⟨parent, name, rfl, hParent⟩
  · -- The root is no directory, so it has no files below it.
    cases there with
    | nil => rfl
    | cons name rest =>
      have hGone : tree.content? (name :: rest) = none := Node.contentAt?_below hOld
      rw [hGone]
      rfl
  · exact content?_set hParent (Node.isLeaf_file text) hOld there

theorem HasDirectory.set_file {there : Location} (h : tree.HasDirectory there)
    (hLocate : tree.locate path = .ok here) (hOld : ¬ tree.HasDirectory here) :
    (tree.set here (.file text)).HasDirectory there := by
  rcases exists_parent_of_locate hLocate with rfl | ⟨parent, name, rfl, hParent⟩
  · obtain ⟨entries, hRoot⟩ := h.eq_directory
    exact absurd ⟨entries, by rw [hRoot, Node.at?_nil]⟩ hOld
  · exact h.put_below hParent hOld

end SetFile

/-- A text is appended to the file of a path, or becomes the content of a new one. -/
theorem appendText_eq_ok {tree after : Tree} {path : Path} {text : String}
    (h : tree.appendText path text = .ok after) :
    ∃ here, tree.locate path = .ok here ∧ ¬ tree.HasDirectory here ∧
      (tree.node? here).isSome = (tree.content? here).isSome ∧
      after = tree.set here (.file ((tree.content? here).getD "" ++ text)) := by
  rw [appendText] at h
  cases hLocate : tree.locate path with
  | error cause => simp [hLocate] at h
  | ok here =>
    refine ⟨here, rfl, ?_⟩
    rw [hasDirectory_iff, content?]
    cases hNode : tree.node? here with
    | none =>
      simp only [hLocate, hNode, Except.ok.injEq] at h
      simp [← h]
    | some node =>
      cases node with
      | directory entries => simp [hLocate, hNode] at h
      | file content =>
        simp only [hLocate, hNode, Except.ok.injEq] at h
        simp [← h, Node.content?]

end TelemetryLog.Tree
