import TelemetryLog.Proofs.Intake.Desk

/-! The file that a desk writes. Its content is described from the outcomes alone: a line for each
row that is said to be written, in the order of the messages, after a header if the file was not
there. Whatever messages come, and whatever others do to the tree between them, the file holds just
that, and no message touches any other file. -/

namespace TelemetryLog

def Row.linesText : List (List String × Row) → String
  | [] => ""
  | (names, row) :: rest => row.lineText names ++ linesText rest

/-- What a file holds once rows have been written to it: a header comes before the first of them if
the file was not there. -/
def Row.contentWith (before : Option String) (isThere : Bool) :
    List (List String × Row) → Option String
  | [] => before
  | (names, row) :: rest =>
    some (before.getD "" ++ (if isThere then "" else Row.headerText names) ++
      Row.linesText ((names, row) :: rest))

namespace Handled

/-- The columns and the row that a message is said to have put into the log. -/
def written? (done : Handled) : Option (List String × Row) := done.outcome.bind Outcome.written?

/-- What a message may do to the files of a tree when the log is at a path. A row that is said to be
written stands at the end of the log, after a header if there was nothing at the path, and every
other file keeps its content; without such a row all files keep theirs. -/
def KeepsFiles (path : Path) (before : Tree) (done : Handled) : Prop :=
  match done.written? with
  | some (names, row) =>
    done.tree.readFile? path =
        Row.contentWith (before.readFile? path) (before.isThere path) [(names, row)] ∧
      ∀ there, done.tree.locate path ≠ .ok there →
        done.tree.content? there = before.content? there
  | none => ∀ there, done.tree.content? there = before.content? there

/-- Whatever the path, a row stands in its file if it is said to be written, and no file is touched
otherwise. -/
def AppendsItsRow (path : Path) (before : Tree) (done : Handled) : Prop :=
  match done.written? with
  | some (names, row) => ∃ here, RowAppended path names row before done.tree here
  | none => before.Furnished done.tree

end Handled

theorem RowAppended.content_eq {path : Path} {names : List String} {row : Row}
    {before after : Tree} {here : Location} (h : RowAppended path names row before after here) :
    after.content? here =
      Row.contentWith (before.content? here) (before.content? here).isSome [(names, row)] := by
  rw [h.content]
  cases before.content? here <;> simp [LogWriter.textFor_eq, Row.contentWith, Row.linesText]

theorem RowAppended.readFile?_eq {path : Path} {names : List String} {row : Row}
    {before after : Tree} {here : Location} (h : RowAppended path names row before after here)
    (hPlain : ".." ∉ path.parts) :
    after.readFile? path =
      Row.contentWith (before.readFile? path) (before.isThere path) [(names, row)] := by
  rw [h.readFile?, h.content_eq, h.isThere hPlain, h.read hPlain]

namespace Desk

section

variable [Host]

/-- The rows that the messages of a run are said to have put into the log, in order. -/
def written (zone : Zone) (desk : Desk) (events : List Event) : List (List String × Row) :=
  (desk.arrivals zone events).filterMap fun (before, m) => (before.take zone m).written?

variable {zone : Zone} {desk : Desk} {m : Message} {rest : List Event}

theorem written_message :
    desk.written zone (.message m :: rest) =
      (desk.take zone m).written?.toList ++ (desk.after zone (.message m)).written zone rest := by
  rw [written, arrivals_message, List.filterMap_cons]
  cases hWritten : (desk.take zone m).written? <;> simp [written, hWritten]

theorem appendsItsRow_take (zone : Zone) (desk : Desk) (m : Message) :
    (desk.take zone m).AppendsItsRow desk.intake.dispatcher.tablePath desk.tree := by
  have hTaken := taken_take zone desk m
  rw [Handled.AppendsItsRow]
  cases hWritten : (desk.take zone m).written? with
  | none => exact Tree.Furnished.of_addedOnWay (hTaken.addedOnWay hWritten)
  | some written => exact hTaken.rowAppended hWritten

/-- What a message does to the files follows from its outcome alone. -/
theorem keepsFiles_take (zone : Zone) (desk : Desk) (m : Message)
    (hPlain : ".." ∉ desk.intake.dispatcher.tablePath.parts) :
    (desk.take zone m).KeepsFiles desk.intake.dispatcher.tablePath desk.tree := by
  have hAppends := appendsItsRow_take zone desk m
  rw [Handled.AppendsItsRow] at hAppends
  rw [Handled.KeepsFiles]
  cases hWritten : (desk.take zone m).written? with
  | none =>
    rw [hWritten] at hAppends
    exact hAppends.files
  | some written =>
    obtain ⟨names, row⟩ := written
    rw [hWritten] at hAppends
    obtain ⟨here, hRow⟩ := hAppends
    constructor
    · exact hRow.readFile?_eq hPlain
    · intro there hThere
      refine hRow.others there ?_
      rintro rfl
      exact hThere hRow.located

theorem readFile?_after_message {path : Path} (hPath : desk.intake.dispatcher.tablePath = path)
    (hPlain : ".." ∉ path.parts) :
    (desk.after zone (.message m)).tree.readFile? path =
      Row.contentWith (desk.tree.readFile? path) (desk.tree.isThere path)
        (desk.take zone m).written?.toList := by
  subst hPath
  have hKeeps := keepsFiles_take zone desk m hPlain
  rw [Handled.KeepsFiles] at hKeeps
  cases hWritten : (desk.take zone m).written? with
  | none => exact Tree.readFile?_of_addedOnWay hPlain ((taken_take zone desk m).addedOnWay hWritten)
  | some written =>
    rw [hWritten] at hKeeps
    exact hKeeps.1

/-- Once there is a file, lines are all that comes to it. -/
theorem readFile?_run_of_some {path : Path} (hPlain : ".." ∉ path.parts) {events : List Event}
    (hAlone : ∀ alter, Event.change alter ∉ events)
    (hPath : desk.intake.dispatcher.tablePath = path) {content : String}
    (h : desk.tree.readFile? path = some content) :
    (desk.run zone events).tree.readFile? path =
      some (content ++ Row.linesText (desk.written zone events)) := by
  induction events generalizing desk content with
  | nil => simpa [written, arrivals, Row.linesText] using h
  | cons event rest ih =>
    have hRest : ∀ alter, Event.change alter ∉ rest :=
      fun alter hMember => hAlone alter (List.mem_cons_of_mem _ hMember)
    have hPathAfter := (tablePath_after zone desk event).trans hPath
    rw [run_cons]
    cases event with
    | change alter => exact absurd List.mem_cons_self (hAlone alter)
    | reset => exact ih hRest hPathAfter h
    | message m =>
      have hRead := @readFile?_after_message _ zone desk m path hPath hPlain
      rw [h, Tree.isThere_of_readFile? h] at hRead
      rw [written_message]
      cases hWritten : (desk.take zone m).written? with
      | none =>
        rw [hWritten] at hRead
        exact ih hRest hPathAfter hRead
      | some written =>
        obtain ⟨names, row⟩ := written
        have hAppended : (desk.after zone (.message m)).tree.readFile? path =
            some (content ++ row.lineText names) := by
          rw [hRead, hWritten]
          simp [Row.contentWith, Row.linesText]
        rw [ih hRest hPathAfter hAppended]
        simp [Row.linesText, String.append_assoc]

/-- The file after a run in which nobody else changes the tree. Before the first row is written
nothing happens but that directories are added on the way, so what counts for the header is whether
there was something at the path in the tree `start`, from which the present one came so. -/
theorem readFile?_run {path : Path} (hPlain : ".." ∉ path.parts) {events : List Event}
    (hAlone : ∀ alter, Event.change alter ∉ events)
    (hPath : desk.intake.dispatcher.tablePath = path) {start : Tree}
    (hStart : Tree.AddedOnWay path.parent start desk.tree) :
    (desk.run zone events).tree.readFile? path =
      Row.contentWith (start.readFile? path) (start.isThere path) (desk.written zone events) := by
  induction events generalizing desk with
  | nil => exact Tree.readFile?_of_addedOnWay hPlain hStart
  | cons event rest ih =>
    have hRest : ∀ alter, Event.change alter ∉ rest :=
      fun alter hMember => hAlone alter (List.mem_cons_of_mem _ hMember)
    have hPathAfter := (tablePath_after zone desk event).trans hPath
    rw [run_cons]
    cases event with
    | change alter => exact absurd List.mem_cons_self (hAlone alter)
    | reset => exact ih hRest hPathAfter hStart
    | message m =>
      have hTaken := taken_take zone desk m
      rw [written_message]
      cases hWritten : (desk.take zone m).written? with
      | none =>
        have hWay := hTaken.addedOnWay hWritten
        rw [hPath] at hWay
        exact ih hRest hPathAfter (hStart.trans hWay)
      | some written =>
        obtain ⟨names, row⟩ := written
        obtain ⟨here, hRow⟩ := hTaken.rowAppended hWritten
        rw [hPath] at hRow
        have hRead := (hRow.of_addedOnWay hStart).readFile?_eq hPlain
        rw [readFile?_run_of_some hPlain hRest hPathAfter hRead]
        simp [Row.linesText, Row.contentWith, String.append_assoc]

/-- The files follow from the outcomes. After any run of messages, and of changes that others make
to the tree, the next message keeps the files as its outcome says; and if nobody else changes the
tree, the log holds what it held at the start and the rows that are said to be written, in order,
after one header if there was nothing at its path at the start. -/
theorem files_follow_outcomes (zone : Zone) (desk : Desk)
    (hPlain : ".." ∉ desk.intake.dispatcher.tablePath.parts) (events : List Event) :
    let path := desk.intake.dispatcher.tablePath
    let last := desk.run zone events
    (∀ m, (last.take zone m).KeepsFiles path last.tree) ∧
      ((∀ alter, Event.change alter ∉ events) →
        last.tree.readFile? path =
          Row.contentWith (desk.tree.readFile? path) (desk.tree.isThere path)
            (desk.written zone events)) := by
  intro path last
  have hPath : last.intake.dispatcher.tablePath = path := tablePath_run zone desk events
  constructor
  · intro m
    have hKeeps := keepsFiles_take zone last m (hPath ▸ hPlain)
    rwa [hPath] at hKeeps
  · intro hAlone
    exact readFile?_run hPlain hAlone rfl .refl

end

attribute [local instance] Host.usual

/-- Two samples come to a new file with one header and two lines. -/
theorem files_follow_outcomes_fresh :
    ".." ∉ LogWriter.usualPath.parts ∧
      ((fresh LogWriter.usualPath).run .universal
          [.message .sample, .message .sample]).tree.readFile? LogWriter.usualPath =
        some "record_no,timestamp,A\n1,1970-01-01 00:00:00,1.0\n2,1970-01-01 00:00:00,1.0\n" := by
  have hPlain : ".." ∉ LogWriter.usualPath.parts := by decide
  have hFiles := files_follow_outcomes .universal (fresh LogWriter.usualPath) hPlain
    [.message .sample, .message .sample]
  refine ⟨hPlain, (hFiles.2 (by simp)).trans ?_⟩
  decide +kernel

end Desk

end TelemetryLog
