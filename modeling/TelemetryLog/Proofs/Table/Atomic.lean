import TelemetryLog.Proofs.Storage.Directories
import TelemetryLog.Proofs.Table.Append

/-! Appending a row is all or nothing. If the storage refuses, no file is touched, and nothing more
has come about than directories on the way to the log; if the row is appended, the log has its line,
after the header if it is new, and nothing else has changed but for directories on the way. -/

namespace TelemetryLog

namespace Tree

/-- A path leads to a directory. -/
def LeadsToDirectory (tree : Tree) (path : Path) : Prop :=
  ∃ here, tree.locate path = .ok here ∧ tree.HasDirectory here

variable {tree after : Tree} {path : Path}

theorem leadsToDirectory_of_addDirectory (h : tree.addDirectory path = .ok after) :
    after.LeadsToDirectory path := by
  have hFurnished := Furnished.addDirectory h
  obtain ⟨parent, name, hLocate, -, hParent, rfl⟩ := addDirectory_eq_ok h
  exact ⟨_, hFurnished.locate hLocate, [], Node.at?_put hParent⟩

theorem leadsToDirectory_of_acceptDirectory {cause : StorageCause}
    (h : tree.acceptDirectory path cause = (after, .ok ())) : after.LeadsToDirectory path := by
  unfold acceptDirectory at h
  split at h
  · rename_i entries hFind
    cases h
    unfold find at hFind
    split at hFind
    · rename_i here hLocate
      exact ⟨here, hLocate, entries, Except.ok.inj hFind⟩
    · cases hFind
    · cases hFind
  · cases h

theorem leadsToDirectory_of_ensureLast (h : tree.ensureLast path = (after, .ok ())) :
    after.LeadsToDirectory path := by
  unfold ensureLast at h
  split at h
  · rename_i hAdd
    cases h
    exact leadsToDirectory_of_addDirectory hAdd
  · cases h
  · exact leadsToDirectory_of_acceptDirectory h

/-- The directory of a path is there once it has been made. -/
theorem leadsToDirectory_of_ensureDirectory [Host]
    (h : tree.ensureDirectory path = (after, .ok ())) : after.LeadsToDirectory path := by
  unfold ensureDirectory at h
  have hPath : path = ⟨path.start, path.parts.reverse.reverse⟩ := by rw [List.reverse_reverse]
  rw [hPath]
  -- Whatever has been made above, the last step is that for the path itself.
  cases hParts : path.parts.reverse with
  | nil =>
    rw [hParts] at h
    exact leadsToDirectory_of_ensureLast h
  | cons name above =>
    rw [hParts, ensureReversed] at h
    split at h
    · cases h
    · split at h
      · rename_i hAdd
        cases h
        exact leadsToDirectory_of_addDirectory hAdd
      · split at h
        · exact leadsToDirectory_of_ensureLast h
        · cases h
      · exact leadsToDirectory_of_acceptDirectory h

theorem LeadsToDirectory.mono (h : tree.LeadsToDirectory path) (hBase : after.base = tree.base)
    (hKept : ∀ here, tree.HasDirectory here → after.HasDirectory here) :
    after.LeadsToDirectory path := by
  obtain ⟨here, hLocate, hDirectory⟩ := h
  exact ⟨here, locate_mono hBase hKept hLocate, hKept here hDirectory⟩

/-- If a path leads to a directory, so do all its names from its start on. -/
theorem LeadsToDirectory.passes (h : tree.LeadsToDirectory path) {parts : List String}
    (hParts : parts <+: path.parts) :
    ∃ here, tree.follow [] (tree.origin path ++ parts) = .ok here ∧ tree.HasDirectory here := by
  obtain ⟨last, hLocate, hLast⟩ := h
  by_cases hWhole : parts = path.parts
  · exact ⟨last, hWhole ▸ (locate_eq_ok_iff.mp hLocate).2, hLast⟩
  · exact hasDirectory_of_locate hLocate hParts hWhole

end Tree

/-- The log at a path has got the line of a row: after what it held before, and after the header
exactly if nothing was there once its directory had been made. All directories on the way are there,
and besides those that were missing of them nothing is new or different. -/
structure LogsRow [Host] (path : Path) (names : List String) (row : Row) (before after : Tree) :
    Prop where
  file : ∃ here, after.locate path = .ok here ∧
    after.content? here = some ((before.content? here).getD "" ++
      (if (before.ensureDirectory path.parent).1.isThere path then "" else Row.headerText names) ++
      row.lineText names) ∧
    ∀ there, there ≠ here → after.content? there = before.content? there
  parents : ∀ parts, parts <+: path.parent.parts →
    ∃ there, after.follow [] (after.origin path ++ parts) = .ok there ∧ after.HasDirectory there
  kept : ∀ there, before.HasDirectory there → after.HasDirectory there
  added : ∀ there, after.HasDirectory there →
    before.HasDirectory there ∨ before.node? there = none ∧ after.OnWay path.parent there

namespace LogWriter

variable {writer : LogWriter} {tree : Tree} {path : Path} {names : List String} {row : Row}

/-- An append that succeeds has made the directory, looked whether the file is there, and put the
text for the row at its end. -/
theorem append_eq_ok [Host] (h : (writer.append tree path names row).result = .ok ()) :
    ∃ between node, tree.ensureDirectory path.parent = (between, .ok ()) ∧
      between.find path = .ok node ∧
      between.appendText path (textFor node.isNone names row) =
        .ok (writer.append tree path names row).tree := by
  revert h
  unfold append
  split
  · intro h
    cases h
  · split
    · intro h
      cases h
    · intro h
      cases h
    · rename_i between hEnsure
      split
      · rename_i hNul
        intro h
        simp [appendTo, hNul] at h
      · split
        · intro h
          cases h
        · rename_i node hFind
          intro h
          rcases writer.appendTo_cases between node.isNone path names row with
            ⟨-, -, -, hText⟩ | ⟨fault, hResult, -⟩
          · exact ⟨between, node, hEnsure, hFind, hText⟩
          · rw [hResult] at h
            cases h

theorem path_of_appendTo_eq_error {isNew : Bool} {fault : StorageFault} {told : Path}
    (h : (writer.appendTo tree isNew path names row).result = .error (.storage fault told)) :
    told = path := by
  unfold appendTo at h
  cases hNul : path.hasNul with
  | true => simp [hNul] at h
  | false =>
    cases hText : tree.appendText path (textFor isNew names row) with
    | error cause =>
      simp only [hNul, hText, Bool.false_eq_true, if_false, Except.error.injEq,
        AppendFault.storage.injEq] at h
      exact h.2.symm
    | ok after => simp [hNul, hText] at h

/-- What the storage refuses is told with the path of the log. -/
theorem path_of_append_eq_error [Host] {fault : StorageFault} {told : Path}
    (h : (writer.append tree path names row).result = .error (.storage fault told)) :
    told = path := by
  revert h
  unfold append
  split
  · simp
  · split
    · simp +contextual
    · simp
    · split
      · exact path_of_appendTo_eq_error
      · split
        · simp +contextual
        · exact path_of_appendTo_eq_error

theorem isNone_eq_not_isThere {node : Option Node} (h : tree.find path = .ok node) :
    node.isNone = !tree.isThere path := by
  rw [Tree.isThere, h]
  cases node <;> rfl

theorem logsRow_append [Host] (h : (writer.append tree path names row).result = .ok ()) :
    LogsRow path names row tree (writer.append tree path names row).tree := by
  obtain ⟨between, node, hEnsure, hFind, hText⟩ := append_eq_ok h
  have hBetween := tree.addedOnWay_ensureDirectory path.parent
  rw [hEnsure] at hBetween
  have hWay := Tree.AddsOnly.of_addedOnWay hBetween
  obtain ⟨here, hLocate, hOld, -, hAfter⟩ := Tree.appendText_eq_ok hText
  obtain ⟨last, hRow⟩ := rowAppended_of_appendText hFind hText
  obtain rfl : here = last :=
    Except.ok.inj ((hRow.locate hLocate).symm.trans hRow.located)
  refine ⟨⟨here, hRow.located, ?_, ?_⟩, ?_, ?_, ?_⟩
  · rw [hAfter, Tree.content?_set_file hLocate hOld, if_pos rfl, hWay.files, hEnsure, textFor_eq,
      isNone_eq_not_isThere hFind, String.append_assoc]
    cases between.isThere path <;> rfl
  · intro there hThere
    rw [hRow.others there hThere, hWay.files]
  · intro parts hParts
    have hParent := Tree.leadsToDirectory_of_ensureDirectory hEnsure
    exact (hParent.mono hRow.base hRow.directories).passes hParts
  · intro there hThere
    exact hRow.directories there (hWay.kept there hThere)
  · intro there hThere
    rw [hAfter] at hThere
    refine (hWay.added there (hThere.of_set_file hLocate)).imp_right fun ⟨hNone, hOnWay⟩ => ?_
    obtain ⟨parts, hParts, hFollow⟩ := hOnWay
    refine ⟨hNone, parts, hParts, ?_⟩
    rw [Tree.origin, hRow.base]
    exact Tree.follow_mono hRow.directories hFollow

/-- How an append ends, whatever the tree is like. If the row is appended, it is counted and
`LogsRow` says what has changed. If the storage refuses, that is counted and told with the path, all
files are as before, and at most directories on the way that were missing are there. The other two
faults are not counted, and leave as much behind. -/
theorem append_atomic [Host] (writer : LogWriter) (tree : Tree) (path : Path) (names : List String)
    (row : Row) :
    let done := writer.append tree path names row
    match done.result with
    | .ok () =>
      done.writer = { writer with rowsWritten := writer.rowsWritten + 1 } ∧
        LogsRow path names row tree done.tree
    | .error (.storage _ told) =>
      told = path ∧ done.writer = { writer with writeErrors := writer.writeErrors + 1 } ∧
        Tree.AddsOnly path.parent tree done.tree
    | .error .nulInPath | .error .tooDeep =>
      done.writer = writer ∧ Tree.AddsOnly path.parent tree done.tree := by
  intro done
  rcases writer.append_cases tree path names row with
    ⟨hResult, hWriter, -⟩ | ⟨fault, hResult, hWriter, hWay⟩
  · simp only [done, hResult]
    exact ⟨hWriter, logsRow_append hResult⟩
  · have hAdds := Tree.AddsOnly.of_addedOnWay hWay
    simp only [done, hResult]
    cases fault with
    | storage fault told => exact ⟨path_of_append_eq_error hResult, hWriter, hAdds⟩
    | nulInPath | tooDeep => exact ⟨hWriter, hAdds⟩

attribute [local instance] Host.usual

/-- A directory that has been made before the storage refuses the next step stays. -/
example :
    let tree := Tree.empty.putFile (.ofText "taken") "text"
    let path := Path.ofText "new/../taken/log"
    let done := (new path).append tree path [] default
    done.result = .error (.storage ⟨.exists, path.parent⟩ path) ∧ done.writer.writeErrors = 1 ∧
      done.tree.LeadsToDirectory (.ofText "new") ∧
      done.tree.readFile? (.ofText "taken") = some "text" :=
  ⟨by decide +kernel, by decide +kernel, ⟨["work", "new"], by decide +kernel, [], by rfl⟩,
    by decide +kernel⟩

end LogWriter

end TelemetryLog
