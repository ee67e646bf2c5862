import TelemetryLog.Proofs.Storage.Follow

/-! The outline of a tree: its directories and files without what is in the files. Where a path
leads, and what becomes of making a directory or of appending to a file, can all be told from the
outline alone. -/

namespace TelemetryLog

namespace Node

mutual

/-- A node with all files emptied. -/
def outline : Node → Node
  | .file _ => .file ""
  | .directory entries => .directory (outlineEntries entries)

def outlineEntries : List (String × Node) → List (String × Node)
  | [] => []
  | (name, node) :: rest => (name, node.outline) :: outlineEntries rest

end

@[simp] theorem outline_file (content : String) : (file content).outline = .file "" := by
  rw [outline]

@[simp] theorem outline_directory (entries : List (String × Node)) :
    (directory entries).outline = .directory (outlineEntries entries) := by
  rw [outline]

@[simp] theorem outline_emptyDirectory : emptyDirectory.outline = emptyDirectory := by
  simp [emptyDirectory, outlineEntries]

theorem lookup_outlineEntries (name : String) (entries : List (String × Node)) :
    (outlineEntries entries).lookup name = (entries.lookup name).map outline := by
  induction entries with
  | nil => rfl
  | cons entry rest ih =>
    obtain ⟨other, node⟩ := entry
    rw [outlineEntries, lookup_cons_eq_ite, lookup_cons_eq_ite, ih]
    split <;> rfl

theorem entry?_outline (node : Node) (name : String) :
    node.outline.entry? name = ( node.entry? name).map outline := by
  cases node <;> simp [lookup_outlineEntries, entry?]

theorem at?_outline (node : Node) (location : Location) :
    node.outline.at? location = (node.at? location).map outline := by
  induction location generalizing node with
  | nil => simp
  | cons name rest ih =>
    rw [at?_cons, at?_cons, entry?_outline]
    cases node.entry? name with
    | none => rfl
    | some below => exact ih below

theorem outlineEntries_setEntry (name : String) (node : Node) (entries : List (String × Node)) :
    outlineEntries (setEntry name node entries) =
      setEntry name node.outline (outlineEntries entries) := by
  induction entries with
  | nil => simp [setEntry, outlineEntries]
  | cons entry rest ih =>
    obtain ⟨other, old⟩ := entry
    simp only [setEntry, outlineEntries]
    split <;> simp [outlineEntries, ih]

theorem outline_put (node new : Node) (location : Location) :
    (node.put new location).outline = node.outline.put new.outline location := by
  induction location generalizing node with
  | nil => simp [put]
  | cons name rest ih =>
    cases node with
    | file content => simp [put]
    | directory entries =>
      simp only [put, outline_directory, outlineEntries_setEntry, ih, lookup_outlineEntries]
      cases entries.lookup name <;> simp

end Node

namespace Tree

def outline (tree : Tree) : Tree := { tree with root := tree.root.outline }

@[simp] theorem base_outline (tree : Tree) : tree.outline.base = tree.base := rfl

theorem node?_outline (tree : Tree) (here : Location) :
    tree.outline.node? here = (tree.node? here).map Node.outline :=
  tree.root.at?_outline here

theorem outline_set (tree : Tree) (here : Location) (node : Node) :
    (tree.set here node).outline = tree.outline.set here node.outline := by
  rw [outline, set, Node.outline_put]
  rfl

theorem follow_outline (tree : Tree) (here : Location) (names : List String) :
    tree.outline.follow here names = tree.follow here names := by
  induction names generalizing here with
  | nil => rfl
  | cons name rest ih =>
    rw [follow, follow, node?_outline]
    cases tree.node? here with
    | none => rfl
    | some node => cases node <;> simp [ih]

theorem locate_outline (tree : Tree) (path : Path) :
    tree.outline.locate path = tree.locate path := by
  rw [locate_eq_follow, locate_eq_follow, follow_outline]
  rfl

theorem find_outline (tree : Tree) (path : Path) :
    tree.outline.find path = (tree.find path).map (Option.map Node.outline) := by
  rw [find, find, locate_outline]
  cases tree.locate path with
  | ok here => simp [node?_outline, Except.map]
  | error cause => cases cause <;> rfl

theorem addDirectory_outline (tree : Tree) (path : Path) :
    tree.outline.addDirectory path = (tree.addDirectory path).map outline := by
  rw [addDirectory, addDirectory, locate_outline]
  cases tree.locate path with
  | error cause => rfl
  | ok here =>
    simp only [node?_outline]
    cases tree.node? here <;> simp [Except.map, outline_set]

theorem acceptDirectory_outline (tree : Tree) (path : Path) (cause : StorageCause) :
    tree.outline.acceptDirectory path cause =
      (tree.acceptDirectory path cause).map outline id := by
  rw [acceptDirectory, acceptDirectory, find_outline]
  cases tree.find path with
  | error cause => rfl
  | ok node =>
    cases node with
    | none => rfl
    | some node => cases node <;> simp [Except.map]

theorem ensureLast_outline (tree : Tree) (path : Path) :
    tree.outline.ensureLast path = (tree.ensureLast path).map outline id := by
  rw [ensureLast, ensureLast, addDirectory_outline]
  cases tree.addDirectory path with
  | ok after => rfl
  | error cause => cases cause <;> simp [Except.map, acceptDirectory_outline]

theorem ensureReversed_outline (tree : Tree) (start : PathRoot) (levels : Nat)
    (reversed : List String) :
    tree.outline.ensureReversed start levels reversed =
      (tree.ensureReversed start levels reversed).map outline id := by
  induction reversed generalizing levels with
  | nil => exact ensureLast_outline tree _
  | cons name above ih =>
    rw [ensureReversed, ensureReversed, addDirectory_outline, ih]
    split
    · rfl
    · cases tree.addDirectory ⟨start, (name :: above).reverse⟩ with
      | ok after => rfl
      | error cause =>
        cases cause with
        | missing =>
          cases tree.ensureReversed start (levels - 1) above with
          | mk between result => cases result <;> simp [Except.map, ensureLast_outline]
        | _ => simp [Except.map, acceptDirectory_outline]

theorem ensureDirectory_outline [Host] (tree : Tree) (path : Path) :
    tree.outline.ensureDirectory path = (tree.ensureDirectory path).map outline id :=
  ensureReversed_outline tree _ _ _

/-- The outline after a text has been appended does not depend on the text. -/
theorem appendText_outline (tree : Tree) (path : Path) (text : String) :
    (tree.appendText path text).map outline = tree.outline.appendText path "" := by
  rw [appendText, appendText, locate_outline]
  cases tree.locate path with
  | error cause => rfl
  | ok here =>
    simp only [node?_outline]
    cases tree.node? here with
    | none => simp [Except.map, outline_set]
    | some node => cases node <;> simp [Except.map, outline_set]

end Tree

end TelemetryLog
