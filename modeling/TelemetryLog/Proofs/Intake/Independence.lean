import TelemetryLog.Proofs.Dispatch.Answer
import TelemetryLog.Proofs.Dispatch.Shift
import TelemetryLog.Proofs.Intake.Logged

/-! The independence of messages. A message that is no data message leaves no trace in what comes
after it, and its outcome hangs on nothing that came before; a data message that is refused only
takes a record number away from those that come after it. -/

namespace TelemetryLog

/-- A list without what stands at some places, counted from zero. -/
def leaveOut {α : Type} (left : Nat → Bool) : List α → List α
  | [] => []
  | x :: rest =>
    if left 0 then leaveOut (left ∘ Nat.succ) rest else x :: leaveOut (left ∘ Nat.succ) rest

/-- The outcome of a message that is no data message, at whatever desk with a threshold. -/
def Message.outcomeAlone [Host] (threshold : Threshold) (m : Message) : Option Outcome :=
  m.payload.bind fun payload =>
    if m.identity.kind = .metadata then
      if m.isUntellable threshold then none
      else (Dispatcher.readMetadata m.identity payload).toOption
    else some (.unclassified m.topic payload.display)

/-- Whether an event is a message that is no data message. -/
def Event.isOtherMessage : Event → Bool
  | .message m => !m.isData
  | _ => false

namespace Dispatcher

variable {identity : Identity}

theorem dispatch_other [Host] (zone : Zone) (d : Dispatcher) (tree : Tree) (topic : Value)
    (payload : Option Payload) (h : identity.kind ≠ .data) :
    let done := d.dispatch zone tree identity topic payload
    done.tree = tree ∧ done.dispatcher = d := by
  simp only [dispatch]
  split <;> simp_all

end Dispatcher

namespace Desk

theorem written?_lower (outcome : Outcome) :
    outcome.lower.written? = outcome.written?.map fun (names, row) => (names, row.lower) := by
  cases outcome with
  | dataHandled identity names row tablePath writeError => cases writeError <;> rfl
  | _ => rfl

section

variable [Host] {zone : Zone} {desk desk' : Desk} {m : Message}

/-- The outcomes of a run, with a place for each event. An event that is no message has none. -/
def results (zone : Zone) (desk : Desk) : List Event → List (Option Outcome)
  | [] => []
  | .message m :: rest =>
    (desk.take zone m).outcome :: results zone (desk.after zone (.message m)) rest
  | event :: rest => none :: results zone (desk.after zone event) rest

def dispatched (zone : Zone) (desk : Desk) (m : Message) : Dispatched :=
  desk.intake.dispatcher.dispatch zone desk.tree m.identity m.topic m.payload

/-- What taking a message makes of a desk, read off its dispatch. -/
theorem take_eq (zone : Zone) (desk : Desk) (m : Message) :
    (desk.take zone m).tree = (desk.dispatched zone m).tree ∧
      (desk.take zone m).intake.dispatcher = (desk.dispatched zone m).dispatcher ∧
      (desk.take zone m).outcome =
        if m.isUntellable desk.intake.threshold then none
        else (desk.dispatched zone m).result.toOption := by
  have hDispatched : desk.dispatched zone m = desk.intake.dispatcher.dispatch zone desk.tree
    (.classify m.topic) m.topic m.payload := rfl
  simp only [take, Intake.handle, ← hDispatched]
  split
  · rename_i outcome hResult
    have hFault := (reportFault_isSome_iff hResult).trans (untellable_iff hResult)
    split
    · rename_i hReport
      have hTold : m.isUntellable desk.intake.threshold = false := by simpa [hReport] using hFault
      simp [hTold, hResult, Except.toOption]
    · rename_i hReport
      have hUntold : m.isUntellable desk.intake.threshold = true := by simpa [hReport] using hFault
      simp [hUntold]
  · rename_i fault hResult
    simp [not_untellable_of_error hResult, hResult, Except.toOption]

theorem result_of_outcome {outcome : Outcome} (h : (desk.take zone m).outcome = some outcome) :
    (desk.dispatched zone m).result = .ok outcome := by
  rw [(take_eq zone desk m).2.2] at h
  split at h
  · cases h
  · cases hResult : (desk.dispatched zone m).result with
    | error fault => simp [hResult, Except.toOption] at h
    | ok other => simpa [hResult, Except.toOption] using h

theorem outcome_other (zone : Zone) (desk : Desk) (h : m.isData = false) :
    (desk.take zone m).outcome = m.outcomeAlone desk.intake.threshold := by
  obtain ⟨-, -, hOutcome⟩ := take_eq zone desk m
  rw [hOutcome, dispatched, Message.outcomeAlone]
  cases hKind : m.identity.kind with
  | data => simp [Message.isData, hKind] at h
  | unsupported label => exact absurd hKind (Identity.kind_classify m.topic label)
  | metadata =>
    cases m.payload <;> simp [Dispatcher.dispatch, hKind, Except.toOption]
  | unknown =>
    have hTold : m.isUntellable desk.intake.threshold = false := by
      simp [Message.isUntellable, hKind]
    cases m.payload <;> simp [Dispatcher.dispatch, hKind, hTold, Except.toOption]

/-! ### Messages that are no data messages -/

/-- Desks at which all messages fare alike: they differ in their accounts at most. -/
structure Alike (desk desk' : Desk) : Prop where
  dispatcher : desk'.intake.dispatcher = desk.intake.dispatcher
  tree : desk'.tree = desk.tree
  threshold : desk'.intake.threshold = desk.intake.threshold

theorem Alike.dispatched (h : Alike desk desk') (zone : Zone) (m : Message) :
    desk'.dispatched zone m = desk.dispatched zone m := by
  rw [Desk.dispatched, Desk.dispatched, h.dispatcher, h.tree]

theorem Alike.outcome (h : Alike desk desk') (zone : Zone) (m : Message) :
    (desk'.take zone m).outcome = (desk.take zone m).outcome := by
  obtain ⟨-, -, hOutcome⟩ := take_eq zone desk m
  obtain ⟨-, -, hOutcome'⟩ := take_eq zone desk' m
  rw [hOutcome, hOutcome', h.dispatched, h.threshold]

theorem Alike.after (h : Alike desk desk') (zone : Zone) (event : Event) :
    Alike (desk.after zone event) (desk'.after zone event) := by
  have hThreshold : (desk'.after zone event).intake.threshold =
      (desk.after zone event).intake.threshold := by
    rw [threshold_after, threshold_after, h.threshold]
  cases event with
  | reset => exact ⟨h.dispatcher, h.tree, hThreshold⟩
  | change alter => exact ⟨h.dispatcher, congrArg alter h.tree, hThreshold⟩
  | message m =>
    obtain ⟨hTree, hDispatcher, -⟩ := take_eq zone desk m
    obtain ⟨hTree', hDispatcher', -⟩ := take_eq zone desk' m
    rw [h.dispatched] at hTree' hDispatcher'
    exact ⟨hDispatcher'.trans hDispatcher.symm, hTree'.trans hTree.symm, hThreshold⟩

/-- A message that is no data message leaves the desk as it was. -/
theorem Alike.after_other (h : Alike desk desk') (zone : Zone) (hOther : m.isData = false) :
    Alike (desk.after zone (.message m)) desk' := by
  obtain ⟨hTree, hDispatcher, -⟩ := take_eq zone desk m
  have hKind : m.identity.kind ≠ .data := by simpa [Message.isData] using hOther
  obtain ⟨hSame, hKept⟩ := Dispatcher.dispatch_other zone desk.intake.dispatcher desk.tree m.topic
    m.payload hKind
  refine ⟨?_, ?_, (threshold_after zone desk _).symm ▸ h.threshold⟩
  · exact h.dispatcher.trans (hDispatcher.trans hKept).symm
  · exact h.tree.trans (hTree.trans hSame).symm

/-- Without some of the messages that are no data messages, all else fares as it does with them. -/
theorem Alike.run_leaveOut (h : Alike desk desk') (zone : Zone) {left : Nat → Bool}
    {events : List Event}
    (hOther : ∀ i event, events[i]? = some event → left i = true → event.isOtherMessage = true) :
    desk'.results zone (leaveOut left events) = leaveOut left (desk.results zone events) ∧
      Alike (desk.run zone events) (desk'.run zone (leaveOut left events)) := by
  -- Places are counted from the head of the list, so what is left out of the rest moves up by one.
  induction events generalizing desk desk' left with
  | nil => exact ⟨rfl, h⟩
  | cons event rest ih =>
    have hRest : ∀ i event, rest[i]? = some event → (left ∘ Nat.succ) i = true →
        event.isOtherMessage = true := fun i => hOther (i + 1)
    cases hLeft : left 0 with
    | true =>
      cases event with
      | message m =>
        have hNoData : m.isData = false := by
          simpa [Event.isOtherMessage] using hOther 0 (.message m) rfl hLeft
        simpa only [results, leaveOut, hLeft, if_true, run_cons] using
          ih (h.after_other zone hNoData) hRest
      | reset => simpa [Event.isOtherMessage] using hOther 0 .reset rfl hLeft
      | change alter => simpa [Event.isOtherMessage] using hOther 0 (.change alter) rfl hLeft
    | false =>
      have hNext := ih (h.after zone event) hRest
      cases event with
      | message m => simpa [results, leaveOut, hLeft, h.outcome zone m] using hNext
      | reset | change => simpa [results, leaveOut, hLeft] using hNext

/-! ### A data message that is refused -/

/-- A desk that has taken a record number less than another one. Both trees have the same outline. -/
structure Trails (desk desk' : Desk) : Prop where
  dispatcher : desk'.intake.dispatcher = desk.intake.dispatcher.behind
  outline : desk'.tree.outline = desk.tree.outline
  threshold : desk'.intake.threshold = desk.intake.threshold

theorem Trails.dispatched (h : Trails desk desk') (zone : Zone) (m : Message) :
    (desk'.dispatched zone m).outlined = (desk.dispatched zone m).lowered := by
  rw [Desk.dispatched, Desk.dispatched, h.dispatcher]
  exact Dispatcher.dispatch_behind zone _ h.outline m.identity m.topic m.payload

theorem Trails.outcome (h : Trails desk desk') (zone : Zone) (m : Message) :
    (desk'.take zone m).outcome = (desk.take zone m).outcome.map Outcome.lower := by
  obtain ⟨-, -, hOutcome⟩ := take_eq zone desk m
  obtain ⟨-, -, hOutcome'⟩ := take_eq zone desk' m
  have hResult : (desk'.dispatched zone m).result =
      (desk.dispatched zone m).result.map Outcome.lower := congrArg (·.2.2) (h.dispatched zone m)
  rw [hOutcome, hOutcome', hResult, h.threshold]
  split
  · rfl
  · cases (desk.dispatched zone m).result <;> rfl

theorem Trails.after (h : Trails desk desk') (zone : Zone) {event : Event}
    (hAlone : ∀ alter, event ≠ .change alter) :
    Trails (desk.after zone event) (desk'.after zone event) := by
  have hThreshold : (desk'.after zone event).intake.threshold =
      (desk.after zone event).intake.threshold := by
    rw [threshold_after, threshold_after, h.threshold]
  cases event with
  | reset => exact ⟨h.dispatcher, h.outline, hThreshold⟩
  | change alter => exact absurd rfl (hAlone alter)
  | message m =>
    obtain ⟨hTree, hDispatcher, -⟩ := take_eq zone desk m
    obtain ⟨hTree', hDispatcher', -⟩ := take_eq zone desk' m
    have hDone := h.dispatched zone m
    have hOutline : (desk'.take zone m).tree.outline = (desk.take zone m).tree.outline := by
      rw [hTree, hTree']
      exact congrArg (·.1) hDone
    have hBehind : (desk'.take zone m).intake.dispatcher =
        (desk.take zone m).intake.dispatcher.behind := by
      rw [hDispatcher, hDispatcher']
      exact congrArg (·.2.1) hDone
    exact ⟨hBehind, hOutline, hThreshold⟩

/-- A desk that trails another one has the same outcomes, with record numbers less by one. -/
theorem Trails.run (h : Trails desk desk') (zone : Zone) {events : List Event}
    (hAlone : ∀ alter, Event.change alter ∉ events) :
    desk'.results zone events = (desk.results zone events).map (Option.map Outcome.lower) ∧
      Trails (desk.run zone events) (desk'.run zone events) := by
  induction events generalizing desk desk' with
  | nil => exact ⟨rfl, h⟩
  | cons event rest ih =>
    obtain ⟨hFirst, hRest⟩ := alone_cons.mp hAlone
    obtain ⟨hResults, hRun⟩ := ih (h.after zone hFirst) hRest
    refine ⟨?_, hRun⟩
    cases event with
    | message m => simp [results, h.outcome zone m, hResults]
    | reset => simp [results, hResults]
    | change alter => exact absurd rfl (hFirst alter)

theorem Taken.of_decodeFailed {after : Tree} {intake : Intake} {told : Identity}
    {cause rawPayload : String}
    (h : Taken desk m after intake (some (.decodeFailed told cause rawPayload))) :
    after = desk.tree ∧ intake.dispatcher = desk.intake.dispatcher.countFor m.identity := by
  cases h with
  | told hFate => exact hFate.of_decodeFailed

/-- A data message that is refused takes a record number, and that is all. -/
theorem after_refused {told : Identity} {cause rawPayload : String}
    (hRefused : (desk.take zone m).outcome = some (.decodeFailed told cause rawPayload))
    (hData : m.isData = true) :
    (desk.after zone (.message m)).tree = desk.tree ∧
      (desk.after zone (.message m)).intake.dispatcher = desk.intake.dispatcher.count := by
  have hTaken := taken_take zone desk m
  simp only [hRefused] at hTaken
  rw [← Dispatcher.countFor_data (of_decide_eq_true hData)]
  exact hTaken.of_decodeFailed

/-- The desk before a data message that is refused trails the desk after it. -/
theorem trails_of_refused {told : Identity} {cause rawPayload : String}
    (hRefused : (desk.take zone m).outcome = some (.decodeFailed told cause rawPayload))
    (hData : m.isData = true) : Trails (desk.after zone (.message m)) desk := by
  obtain ⟨hTree, hDispatcher⟩ := after_refused hRefused hData
  refine ⟨?_, ?_, (threshold_after zone desk (.message m)).symm⟩
  · rw [hDispatcher, Dispatcher.behind_count]
  · rw [hTree]

theorem written_eq_results (zone : Zone) (desk : Desk) (events : List Event) :
    desk.written zone events =
      (desk.results zone events).filterMap fun outcome => outcome.bind Outcome.written? := by
  induction events generalizing desk with
  | nil => rfl
  | cons event rest ih =>
    cases event with
    | message m =>
      rw [written_message, ih, results, List.filterMap_cons, Handled.written?]
      cases (desk.take zone m).outcome.bind Outcome.written? <;> rfl
    | reset | change => exact ih _

/-- A desk that trails another one writes the same rows, with record numbers less by one. -/
theorem Trails.written (h : Trails desk desk') (zone : Zone) {events : List Event}
    (hAlone : ∀ alter, Event.change alter ∉ events) :
    desk'.written zone events =
      (desk.written zone events).map fun (names, row) => (names, row.lower) := by
  rw [written_eq_results, written_eq_results, (h.run zone hAlone).1, List.filterMap_map,
    List.map_filterMap]
  refine congrArg (List.filterMap · _) (funext fun outcome => ?_)
  cases outcome with
  | none => rfl
  | some outcome => exact written?_lower outcome

theorem results_append (zone : Zone) (desk : Desk) (before later : List Event) :
    desk.results zone (before ++ later) =
      desk.results zone before ++ (desk.run zone before).results zone later := by
  induction before generalizing desk with
  | nil => rfl
  | cons event rest ih => cases event <;> simp [results, ih]

theorem length_results (zone : Zone) (desk : Desk) (events : List Event) :
    (desk.results zone events).length = events.length := by
  induction events generalizing desk with
  | nil => rfl
  | cons event rest ih => cases event <;> simp [results, ih]

theorem run_append (zone : Zone) (desk : Desk) (before later : List Event) :
    desk.run zone (before ++ later) = (desk.run zone before).run zone later :=
  List.foldl_append

/-- Messages are independent of each other, whatever the run. Without any of the messages that are
no data messages, all other outcomes, the tree and the dispatcher are the same. Without a data
message that was refused, all is the same but that the counter is one behind and that the later
rows, in the outcomes and in the log, have a record number less by one. The outcome of a message
that is no data message hangs on that message alone. -/
theorem messages_independent (zone : Zone) (desk : Desk) :
    (∀ (left : Nat → Bool) (events : List Event),
      (∀ i event, events[i]? = some event → left i = true → event.isOtherMessage = true) →
        let whole := desk.run zone events
        let thinned := desk.run zone (leaveOut left events)
        desk.results zone (leaveOut left events) = leaveOut left (desk.results zone events) ∧
          thinned.tree = whole.tree ∧ thinned.intake.dispatcher = whole.intake.dispatcher) ∧
      (∀ (before : List Event) (m : Message) (later : List Event) (told : Identity)
        (cause rawPayload : String),
        m.isData = true →
        ((desk.run zone before).take zone m).outcome = some (.decodeFailed told cause rawPayload) →
        (∀ alter, Event.change alter ∉ later) →
          let path := desk.intake.dispatcher.tablePath
          let middle := desk.run zone before
          let rows := (middle.after zone (.message m)).written zone later
          let whole := desk.run zone (before ++ .message m :: later)
          let thinned := desk.run zone (before ++ later)
          let results := desk.results zone (before ++ .message m :: later)
          desk.results zone (before ++ later) = results.take before.length ++
              (results.drop (before.length + 1)).map (Option.map Outcome.lower) ∧
            thinned.intake.dispatcher = whole.intake.dispatcher.behind ∧
            thinned.tree.outline = whole.tree.outline ∧
            Logged path rows middle.tree whole.tree ∧
            Logged path (rows.map fun (names, row) => (names, row.lower)) middle.tree
              thinned.tree) ∧
      ∀ (events : List Event) (m : Message), m.isData = false →
        ((desk.run zone events).take zone m).outcome = m.outcomeAlone desk.intake.threshold := by
  refine ⟨?_, ?_, ?_⟩
  · intro left events hOther
    have hSelf : Alike desk desk := ⟨rfl, rfl, rfl⟩
    obtain ⟨hResults, hRun⟩ := hSelf.run_leaveOut zone hOther
    exact ⟨hResults, hRun.tree, hRun.dispatcher⟩
  · intro before m later told cause rawPayload hData hRefused hAlone path middle rows whole
      thinned results
    have hTrails := trails_of_refused hRefused hData
    obtain ⟨hLater, hRun⟩ := hTrails.run zone hAlone
    have hPath : middle.intake.dispatcher.tablePath = path := tablePath_run zone desk before
    have hWhole : whole = (middle.after zone (.message m)).run zone later :=
      run_append zone desk before _
    have hThinned : thinned = middle.run zone later := run_append zone desk before later
    have hResults : results = desk.results zone before ++ (middle.take zone m).outcome ::
        (middle.after zone (.message m)).results zone later := results_append zone desk before _
    refine ⟨?_, ?_, ?_, ?_, ?_⟩
    · have hLength := length_results zone desk before
      rw [results_append, hLater, hResults, List.append_cons,
        List.drop_left' (by simp [hLength]), ← List.append_cons, List.take_left' hLength]
    · rw [hWhole, hThinned]
      exact hRun.dispatcher
    · rw [hWhole, hThinned]
      exact hRun.outline
    · rw [hWhole, ← (after_refused hRefused hData).1]
      exact logged_run zone _ hAlone ((tablePath_after zone middle _).trans hPath)
    · rw [hThinned, ← hTrails.written zone hAlone]
      exact logged_run zone middle hAlone hPath
  · intro events m hOther
    rw [outcome_other zone _ hOther, threshold_run]

/-- A data payload that is no JSON text is refused at every desk, in the words of the reader. -/
theorem outcome_no_json (zone : Zone) (desk : Desk) {payload : Payload} (hData : m.isData = true)
    (hPayload : m.payload = some payload) (hJson : Json.ofBytes? payload.octets = none) :
    (desk.take zone m).outcome = some (.decodeFailed m.identity
      ("JSON Parse Error (Data): Invalid JSON: " ++ Host.jsonComplaint payload)
      payload.display) := by
  have hKind : m.identity.kind = .data := of_decide_eq_true hData
  have hTold : m.isUntellable desk.intake.threshold = false := by
    simp [Message.isUntellable, hKind]
  obtain ⟨-, -, hOutcome⟩ := take_eq zone desk m
  rw [hOutcome, hTold, dispatched, hPayload, Dispatcher.dispatch_no_json _ hKind hJson]
  rfl

end

attribute [local instance] Host.usual

/-- Between two samples a message of an unknown kind counts for nothing, and one that is no record
for a record number. -/
theorem messages_independent_samples :
    let desk := fresh LogWriter.usualPath
    let unknown : Message := ⟨.text "status", some (.text "up")⟩
    let unread : Message := ⟨Message.sample.topic, some (.text "record")⟩
    let samples : List Event := [.message .sample, .message .sample]
    let withUnknown : List Event := [.message .sample, .message unknown, .message .sample]
    let withUnread : List Event := [.message .sample, .message unread, .message .sample]
    leaveOut (· = 1) withUnknown = samples ∧
      desk.results .universal samples = leaveOut (· = 1) (desk.results .universal withUnknown) ∧
      (desk.run .universal samples).intake.dispatcher =
        (desk.run .universal withUnread).intake.dispatcher.behind ∧
      ((desk.run .universal samples).take .universal unknown).outcome =
        unknown.outcomeAlone .everything := by
  intro desk unknown unread samples withUnknown withUnread
  obtain ⟨hOther, hRefused, hAlone⟩ := messages_independent .universal desk
  have hData : unread.isData = true := by decide +kernel
  have hNoData : unknown.isData = false := by decide +kernel
  have hJson : Json.ofBytes? (Payload.text "record").octets = none :=
    Option.isNone_iff_eq_none.mp (by decide +kernel)
  have hOutcome :=
    outcome_no_json .universal (desk.run .universal [.message .sample]) hData rfl hJson
  have hSkip : ∀ i event, withUnknown[i]? = some event → decide (i = 1) = true →
      event.isOtherMessage = true := by
    intro i event hAt hOne
    obtain rfl : i = 1 := of_decide_eq_true hOne
    cases hAt
    simp [Event.isOtherMessage, hNoData]
  refine ⟨rfl, (hOther (· = 1) withUnknown hSkip).1, ?_, hAlone samples unknown hNoData⟩
  exact (hRefused [.message .sample] unread [.message .sample] _ _ _ hData hOutcome (by simp)).2.1

end Desk

end TelemetryLog
