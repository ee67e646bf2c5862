import Mathlib.Logic.Relation
import TelemetryLog.Proofs.Storage.Follow

/-! Making directories. It leaves every file as it is and every directory where it is; all that it
does is to add directories on the way, one after another, whether or not it comes to an end. -/

namespace TelemetryLog.Tree

open Text

/-- The tree `after` has the files of `before`, and its directories among others. -/
structure Furnished (before after : Tree) : Prop where
  base : after.base = before.base
  files : ∀ here, after.content? here = before.content? here
  directories : ∀ here, before.HasDirectory here → after.HasDirectory here

namespace Furnished

variable {before between after : Tree}

theorem refl (tree : Tree) : Furnished tree tree := ⟨rfl, fun _ => rfl, fun _ h => h⟩

theorem trans (h : Furnished before between) (h' : Furnished between after) :
    Furnished before after :=
  ⟨h'.base.trans h.base, fun here => (h'.files here).trans (h.files here),
    fun here hHere => h'.directories here (h.directories here hHere)⟩

theorem locate (h : Furnished before after) {path : Path} {here : Location}
    (hLocate : before.locate path = .ok here) : after.locate path = .ok here :=
  locate_mono h.base h.directories hLocate

end Furnished

/-- A leaf that is put in a directory, at a location without a directory. -/
theorem content?_set {tree : Tree} {parent : Location} {name : String} {node : Node}
    (hParent : tree.HasDirectory parent) (hLeaf : node.IsLeaf)
    (hOld : ¬ tree.HasDirectory (parent ++ [name])) (there : Location) :
    (tree.set (parent ++ [name]) node).content? there =
      if there = parent ++ [name] then node.content? else tree.content? there :=
  Node.contentAt?_put_below hParent hLeaf hOld there

/-- A directory is added where there was nothing, in a directory. -/
theorem addDirectory_eq_ok {tree after : Tree} {path : Path}
    (h : tree.addDirectory path = .ok after) :
    ∃ parent name, tree.locate path = .ok (parent ++ [name]) ∧
      tree.node? (parent ++ [name]) = none ∧ tree.HasDirectory parent ∧
      after = tree.set (parent ++ [name]) .emptyDirectory := by
  rw [addDirectory] at h
  cases hLocate : tree.locate path with
  | error cause => simp [hLocate] at h
  | ok here =>
    cases hNode : tree.node? here with
    | some node => simp [hLocate, hNode] at h
    | none =>
      have hFollow := (locate_eq_ok_iff.mp hLocate).2
      obtain ⟨parent, name, rfl, hParent⟩ := HasDirectory.of_missing hFollow (by simp [node?]) hNode
      simp only [hLocate, hNode, Except.ok.injEq] at h
      exact ⟨parent, name, rfl, hNode, hParent, h.symm⟩

theorem not_hasDirectory_of_none {tree : Tree} {here : Location} (h : tree.node? here = none) :
    ¬ tree.HasDirectory here := by
  rintro ⟨entries, hEntries⟩
  rw [node?, hEntries] at h
  cases h

theorem Furnished.addDirectory {tree after : Tree} {path : Path}
    (h : tree.addDirectory path = .ok after) : Furnished tree after := by
  obtain ⟨parent, name, -, hNone, hParent, rfl⟩ := addDirectory_eq_ok h
  have hOld := not_hasDirectory_of_none hNone
  refine ⟨rfl, fun there => ?_, fun there hThere => hThere.put_below hParent hOld⟩
  rw [content?_set hParent Node.isLeaf_emptyDirectory hOld]
  split
  · subst there
    rw [Tree.content?, hNone]
    rfl
  · rfl

/-- One more directory on the way to where a path leads. -/
def AddsOnWay (path : Path) (before after : Tree) : Prop :=
  ∃ parts, parts <+: path.parts ∧ before.addDirectory ⟨path.start, parts⟩ = .ok after

/-- The trees that become of one as directories on the way are added, one after another. -/
abbrev AddedOnWay (path : Path) : Tree → Tree → Prop := Relation.ReflTransGen (AddsOnWay path)

theorem acceptDirectory_fst (tree : Tree) (path : Path) (cause : StorageCause) :
    (tree.acceptDirectory path cause).1 = tree := by
  rw [acceptDirectory]
  split <;> rfl

theorem addedOnWay_ensureLast (tree : Tree) {path : Path} {parts : List String}
    (hParts : parts <+: path.parts) :
    AddedOnWay path tree (tree.ensureLast ⟨path.start, parts⟩).1 := by
  rw [ensureLast]
  split
  · rename_i after hAfter
    exact .single ⟨parts, hParts, hAfter⟩
  · exact .refl
  · rw [acceptDirectory_fst]

theorem addedOnWay_ensureReversed (tree : Tree) {path : Path} (levels : Nat)
    {reversed : List String} (hParts : reversed.reverse <+: path.parts) :
    AddedOnWay path tree (tree.ensureReversed path.start levels reversed).1 := by
  induction reversed generalizing levels with
  | nil => exact addedOnWay_ensureLast tree hParts
  | cons name above ih =>
    have hAbove : above.reverse <+: path.parts :=
      (List.prefix_append _ _).trans (List.reverse_cons ▸ hParts)
    rw [ensureReversed]
    split
    · exact .refl
    · split
      · rename_i after hAfter
        exact .single ⟨_, hParts, hAfter⟩
      · have hInner := ih (levels - 1) hAbove
        split
        · rename_i between hBetween
          rw [hBetween] at hInner
          exact hInner.trans (addedOnWay_ensureLast between hParts)
        · rename_i between fault hBetween
          rwa [hBetween] at hInner
      · rw [acceptDirectory_fst]

theorem addedOnWay_ensureDirectory [Host] (tree : Tree) (path : Path) :
    AddedOnWay path tree (tree.ensureDirectory path).1 :=
  addedOnWay_ensureReversed tree Host.directoryDepth (by simp)

theorem Furnished.of_addedOnWay {before after : Tree} {path : Path}
    (h : AddedOnWay path before after) : Furnished before after := by
  induction h with
  | refl => exact .refl before
  | tail _ hStep ih =>
    obtain ⟨parts, -, hAdd⟩ := hStep
    exact ih.trans (.addDirectory hAdd)

end TelemetryLog.Tree
