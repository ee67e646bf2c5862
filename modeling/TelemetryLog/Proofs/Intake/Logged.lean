import TelemetryLog.Proofs.Intake.LogFile

/-! The log, wherever its path leads. `Logged` says that the files of a tree are those of another one
but for the rows that have come to the log. What the messages of a run do to the files adds up to
that, since a path goes on leading to where it once led. -/

namespace TelemetryLog

theorem Row.contentWith_cons (before : Option String) (isThere : Bool) (first : List String × Row)
    (rest : List (List String × Row)) :
    Row.contentWith before isThere (first :: rest) =
      Row.contentWith (Row.contentWith before isThere [first]) true rest := by
  cases rest with
  | nil => rfl
  | cons second rest => simp [Row.contentWith, Row.linesText, String.append_assoc]

/-- The files of `after` are those of `before`, but for the log at a path, to which rows have come. -/
structure Logged (path : Path) (rows : List (List String × Row)) (before after : Tree) : Prop where
  others : ∀ there, after.locate path ≠ .ok there → after.content? there = before.content? there
  log : ∀ here, after.locate path = .ok here →
    after.content? here =
      Row.contentWith (before.content? here) (before.content? here).isSome rows

namespace Logged

variable {path : Path} {rows : List (List String × Row)} {before between after : Tree}

theorem of_furnished (hFurnished : before.Furnished between) (h : Logged path rows between after) :
    Logged path rows before after := by
  constructor
  · intro there hThere
    rw [h.others there hThere, hFurnished.files]
  · intro here hHere
    rw [h.log here hHere, hFurnished.files]

theorem of_rowAppended {names : List String} {row : Row} {here : Location}
    (hRow : RowAppended path names row before between here) (hLater : after.locate path = .ok here)
    (h : Logged path rows between after) : Logged path ((names, row) :: rows) before after := by
  constructor
  · intro there hThere
    have hOther : there ≠ here := by
      rintro rfl
      exact hThere hLater
    rw [h.others there hThere, hRow.others there hOther]
  · intro there hThere
    obtain rfl : here = there := Except.ok.inj (hLater.symm.trans hThere)
    rw [h.log here hThere, Row.contentWith_cons, hRow.content_eq]
    rfl

end Logged

namespace Desk

theorem alone_cons {event : Event} {rest : List Event} :
    (∀ alter, Event.change alter ∉ event :: rest) ↔
      (∀ alter, event ≠ .change alter) ∧ ∀ alter, Event.change alter ∉ rest := by
  simp [forall_and, eq_comm]

theorem locate_after [Host] (zone : Zone) (desk : Desk) {event : Event}
    (hAlone : ∀ alter, event ≠ .change alter) {path : Path} {here : Location}
    (h : desk.tree.locate path = .ok here) :
    (desk.after zone event).tree.locate path = .ok here := by
  cases event with
  | reset => exact h
  | change alter => exact absurd rfl (hAlone alter)
  | message m =>
    have hAppends := appendsItsRow_take zone desk m
    rw [Handled.AppendsItsRow] at hAppends
    split at hAppends
    · obtain ⟨there, hRow⟩ := hAppends
      exact hRow.locate h
    · exact hAppends.locate h

theorem locate_run [Host] (zone : Zone) (desk : Desk) {events : List Event}
    (hAlone : ∀ alter, Event.change alter ∉ events) {path : Path} {here : Location}
    (h : desk.tree.locate path = .ok here) :
    (desk.run zone events).tree.locate path = .ok here := by
  induction events generalizing desk with
  | nil => exact h
  | cons event rest ih =>
    obtain ⟨hFirst, hRest⟩ := alone_cons.mp hAlone
    exact ih _ hRest (locate_after zone desk hFirst h)

/-- After a run in which nobody else changes the tree, the rows that are said to be written are what
has come to the files, wherever the path of the log leads. -/
theorem logged_run [Host] (zone : Zone) (desk : Desk) {events : List Event}
    (hAlone : ∀ alter, Event.change alter ∉ events) {path : Path}
    (hPath : desk.intake.dispatcher.tablePath = path) :
    Logged path (desk.written zone events) desk.tree (desk.run zone events).tree := by
  induction events generalizing desk with
  | nil => exact ⟨fun _ _ => rfl, fun _ _ => rfl⟩
  | cons event rest ih =>
    obtain ⟨hFirst, hRest⟩ := alone_cons.mp hAlone
    have hLater := ih (desk.after zone event) hRest ((tablePath_after zone desk event).trans hPath)
    cases event with
    | change alter => exact absurd rfl (hFirst alter)
    | reset => exact hLater
    | message m =>
      have hAppends := appendsItsRow_take zone desk m
      rw [Handled.AppendsItsRow, hPath] at hAppends
      rw [written_message]
      cases hWritten : (desk.take zone m).written? with
      | none =>
        rw [hWritten] at hAppends
        exact hLater.of_furnished hAppends
      | some written =>
        rw [hWritten] at hAppends
        obtain ⟨here, hRow⟩ := hAppends
        exact hLater.of_rowAppended hRow (locate_run zone _ hRest hRow.located)

end Desk

end TelemetryLog
