import TelemetryLog.Proofs.Storage.Put
import TelemetryLog.Storage.Tree

/-! Where names lead to in a tree. `walk` carries the nodes above it along; `follow` only carries
the location that it has come to, and looks the node there up. Both come to the same end. Names
that lead to a location go on doing so when directories are added. -/

namespace TelemetryLog.Tree

open Text

def HasDirectory (tree : Tree) (here : Location) : Prop := tree.root.HasDirectory here

theorem hasDirectory_iff {tree : Tree} {here : Location} :
    tree.HasDirectory here ↔ ∃ entries, tree.node? here = some (.directory entries) := Iff.rfl

theorem content?_eq (tree : Tree) (here : Location) :
    tree.content? here = tree.root.contentAt? here := rfl

/-- The location that names lead to from another one. -/
def follow (tree : Tree) (here : Location) : List String → Except StorageCause Location
  | [] => .ok here
  | name :: rest =>
    match tree.node? here with
    | none => .error .missing
    | some (.file _) => .error .notDirectory
    | some (.directory _) =>
      if name = ".." then tree.follow here.dropLast rest
      else if greatestName < (Utf8.encode name.toList).length then .error .nameTooLong
      else tree.follow (here ++ [name]) rest

/-- The nodes that `walk` carries along are those of the tree. -/
def Trail (tree : Tree) : List (String × Node) → Prop
  | [] => True
  | (_, parent) :: above =>
    tree.node? (above.map Prod.fst).reverse = some parent ∧ tree.Trail above

theorem walk_eq_follow {tree : Tree} (names : List String) {above : List (String × Node)}
    (h : tree.Trail above) :
    walk above (tree.node? (above.map Prod.fst).reverse) names =
      tree.follow (above.map Prod.fst).reverse names := by
  -- Each step down puts a node on the trail, and two points take one off.
  induction names generalizing above with
  | nil => simp [walk, follow]
  | cons name rest ih =>
    rw [follow]
    cases hHere : tree.node? (above.map Prod.fst).reverse with
    | none => rfl
    | some node =>
      cases node with
      | file content => rfl
      | directory entries =>
        simp only [walk]
        split
        · cases above with
          | nil =>
            rw [List.map_nil, List.reverse_nil] at hHere
            simpa [hHere] using @ih [] h
          | cons last above => simpa [h.1] using ih h.2
        · split
          · rfl
          · have hBelow : tree.node? ((above.map Prod.fst).reverse ++ [name]) =
                entries.lookup name := by
              rw [node?] at hHere
              rw [node?, Node.at?_append, hHere]
              cases hName : entries.lookup name <;> simp [Node.at?_cons, Node.entry?, hName]
            have hNext := @ih ((name, .directory entries) :: above) ⟨hHere, h⟩
            simpa [hBelow] using hNext

/-- The names that lead to where a path starts. -/
def origin (tree : Tree) (path : Path) : List String :=
  if path.start = .here then tree.base else []

theorem locate_eq_follow (tree : Tree) (path : Path) :
    tree.locate path =
      if pathLimit ≤ path.byteLength then .error .nameTooLong
      else tree.follow [] (tree.origin path ++ path.parts) := by
  have h := @walk_eq_follow tree (tree.origin path ++ path.parts) [] trivial
  simp only [List.map_nil, List.reverse_nil, node?, Node.at?_nil] at h
  rw [locate, ← h]
  rfl

theorem locate_eq_ok_iff {tree : Tree} {path : Path} {here : Location} :
    tree.locate path = .ok here ↔
      path.byteLength < pathLimit ∧
        tree.follow [] (tree.origin path ++ path.parts) = .ok here := by
  rw [locate_eq_follow]
  split <;> simp <;> omega

theorem follow_append (tree : Tree) (here : Location) (names rest : List String) :
    tree.follow here (names ++ rest) =
      (tree.follow here names).bind fun there => tree.follow there rest := by
  induction names generalizing here with
  | nil => rfl
  | cons name names ih =>
    simp only [List.cons_append, follow]
    split
    · rfl
    · rfl
    · split
      · exact ih _
      · split
        · rfl
        · exact ih _

theorem follow_append_of_ok {tree : Tree} {here there : Location} {names : List String}
    (h : tree.follow here names = .ok there) (rest : List String) :
    tree.follow here (names ++ rest) = tree.follow there rest := by
  rw [follow_append, h]
  rfl

theorem HasDirectory.of_follow {tree : Tree} {here there : Location} {name : String}
    {rest : List String} (h : tree.follow here (name :: rest) = .ok there) :
    tree.HasDirectory here := by
  rw [follow] at h
  split at h
  · cases h
  · cases h
  · exact ⟨_, ‹_›⟩

theorem node?_isSome_of_append {tree : Tree} {here : Location} {rest : Location}
    (h : (tree.node? (here ++ rest)).isSome) : (tree.node? here).isSome := by
  rw [node?, Node.at?_append] at h
  rw [node?]
  cases hHere : tree.root.at? here with
  | none => simp [hHere] at h
  | some node => rfl

/-- A location that names lead to, and at which nothing stands, is in a directory. -/
theorem HasDirectory.of_missing {tree : Tree} {names : List String} {here there : Location}
    (h : tree.follow here names = .ok there) (hHere : (tree.node? here).isSome)
    (hThere : tree.node? there = none) :
    ∃ parent name, there = parent ++ [name] ∧ tree.HasDirectory parent := by
  induction names generalizing here with
  | nil =>
    cases h
    simp [hThere] at hHere
  | cons name rest ih =>
    have hDirectory := HasDirectory.of_follow h
    obtain ⟨entries, hNode⟩ := hasDirectory_iff.mp hDirectory
    simp only [follow, hNode] at h
    split at h
    · refine ih h ?_
      rcases List.eq_nil_or_concat here with rfl | ⟨parent, last, rfl⟩
      · exact hHere
      · rw [List.concat_eq_append] at hHere ⊢
        rw [List.dropLast_concat]
        exact node?_isSome_of_append hHere
    · split at h
      · cases h
      · cases hNext : tree.node? (here ++ [name]) with
        | some next => exact ih h (by simp [hNext])
        | none =>
          -- Nothing leads on from where nothing stands, so this was the last name.
          cases rest with
          | nil => cases h; exact ⟨here, name, rfl, hDirectory⟩
          | cons next rest => simp [follow, hNext] at h

/-- Names that lead to a location still do so in a tree with other directories besides. -/
theorem follow_mono {before after : Tree}
    (hDirectories : ∀ here, before.HasDirectory here → after.HasDirectory here)
    {names : List String} {here there : Location} (h : before.follow here names = .ok there) :
    after.follow here names = .ok there := by
  induction names generalizing here with
  | nil => exact h
  | cons name rest ih =>
    have hHere := HasDirectory.of_follow h
    obtain ⟨old, hOld⟩ := hasDirectory_iff.mp hHere
    obtain ⟨new, hNew⟩ := hasDirectory_iff.mp (hDirectories here hHere)
    simp only [follow, hOld] at h
    simp only [follow, hNew]
    split at h
    · rw [if_pos ‹_›]
      exact ih h
    · rw [if_neg ‹_›]
      split at h
      · cases h
      · rw [if_neg ‹_›]
        exact ih h

theorem locate_mono {before after : Tree} (hBase : after.base = before.base)
    (hDirectories : ∀ here, before.HasDirectory here → after.HasDirectory here)
    {path : Path} {here : Location} (h : before.locate path = .ok here) :
    after.locate path = .ok here := by
  obtain ⟨hShort, hFollow⟩ := locate_eq_ok_iff.mp h
  refine locate_eq_ok_iff.mpr ⟨hShort, follow_mono hDirectories ?_⟩
  rwa [origin, hBase]

end TelemetryLog.Tree
