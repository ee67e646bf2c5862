import TelemetryLog.Proofs.Receiver.Books
import TelemetryLog.Service

/-! The record numbers of a process. Each time the receiver is built or started it gets a pipeline
with a counter of its own, and earlier ones may go on taking messages over their links. The numbers
in the log are the places of the rows in their pipelines, and go up only as far as these do. -/

namespace TelemetryLog

namespace Service

section Start

variable {s : Service} {r : Receiver}
variable (given : Option Settings) (tree : Tree) (broker : Broker) (seconds : Int)

/-- A service that has a receiver does nothing when it is started, and says whether that runs. -/
theorem start_of_receiver (h : s.receiver = some r) :
    s.start given tree broker seconds = ⟨s, .empty, .ok r.running⟩ := by
  simp only [start, h]

/-- A service without a receiver makes one and starts it, unless it has no settings. -/
theorem start_of_none (h : s.receiver = none) :
    let read := settings tree s.environment given
    (∃ fault, read.2 = .error fault ∧
      s.start given tree broker seconds = ⟨⟨read.1, none, s.retired⟩, .empty, .error fault⟩) ∨
    ∃ chosen, read.2 = .ok chosen ∧
      let started := (Receiver.new chosen .everything).start broker seconds
      s.start given tree broker seconds =
        ⟨⟨read.1, some started.receiver, s.retired⟩, started.trace, .ok started.success⟩ := by
  simp only [start, equip, h]
  cases hSettings : settings tree s.environment given with
  | mk environment read =>
    cases read with
    | error fault => exact .inl ⟨fault, rfl, rfl⟩
    | ok chosen => exact .inr ⟨chosen, rfl, rfl⟩

/-- What the start of a service does: nothing if it has a receiver; else it may settle the
environment only, or make a receiver and start that. -/
theorem start_cases (s : Service) :
    let done := (s.start given tree broker seconds).service
    done = s ∨
      (s.receiver = none ∧ ∃ environment, done = ⟨environment, none, s.retired⟩) ∨
      (s.receiver = none ∧ ∃ environment settings,
        done = ⟨environment,
          some ((Receiver.new settings .everything).start broker seconds).receiver,
          s.retired⟩) := by
  cases hReceiver : s.receiver with
  | some r =>
    rw [start_of_receiver given tree broker seconds hReceiver]
    exact .inl rfl
  | none =>
    obtain ⟨fault, -, hStart⟩ | ⟨chosen, -, hStart⟩ :=
      start_of_none given tree broker seconds hReceiver
    · rw [hStart]
      exact .inr (.inl ⟨rfl, _, rfl⟩)
    · rw [hStart]
      exact .inr (.inr ⟨rfl, _, chosen, rfl⟩)

end Start

/-- The receiver that the broker reaches is the present one if that has a link, and else the retired
one. -/
theorem reached_cases {s : Service} {r : Receiver} (hReached : s.reached? = some r) :
    (s.receiver = some r ∧ (s.receiver.any fun present => present.reached?.isSome) = true) ∨
      (s.retired = some r ∧ (s.receiver.any fun present => present.reached?.isSome) = false) := by
  unfold reached? at hReached
  cases hReceiver : s.receiver with
  | none =>
    rw [hReceiver] at hReached
    exact .inr ⟨hReached, rfl⟩
  | some present =>
    rw [hReceiver] at hReached
    cases hLink : present.reached?.isSome with
    | false => exact .inr ⟨by simpa [Option.filter, hLink] using hReached, hLink⟩
    | true => exact .inl ⟨by simpa [Option.filter, hLink] using hReached, hLink⟩

end Service

/-- A process: its service and its tree, the numbers of the pipelines of the present receiver and of
the retired one, and the books. -/
structure Process where
  service : Service
  tree : Tree
  present : Receiver.Wiring
  retired : Receiver.Wiring
  books : Books

/-- What can happen in a process: the acts of its receiver and of its service, messages that are
given to the receiver or arrive over a link, events of that link, and changes that others make to
the tree. -/
inductive Act where
  | build
  | start (broker : Broker) (seconds : Int)
  | stop (broker : Broker)
  | handle (m : Message)
  | startService (given : Option Settings) (broker : Broker) (seconds : Int)
  | stopService (broker : Broker)
  | message (m : Message)
  | drop (code : Int)
  | acknowledge (code : Int)
  | change (alter : Tree → Tree)

namespace Process

/-- A process that has just begun, with a receiver that has not been started, or without one. -/
def new (environment : Environment) (given : Option (Settings × Threshold)) (tree : Tree) :
    Process :=
  { service := ⟨environment, given.map fun (settings, threshold) => .new settings threshold, none⟩
    tree
    present := ⟨0, 0, 0⟩
    retired := ⟨0, 0, 0⟩
    books := .empty }

def withReceiver (r : Receiver) (p : Process) : Process :=
  { p with service := { p.service with receiver := some r } }

/-- The process once the present receiver has got a fresh pipeline, with the numbers that its
pipelines have then. -/
def numbering (w : Receiver.Wiring) (p : Process) : Process :=
  { p with present := w, books := p.books.build }

/-- The numbers of the receiver that the broker reaches. -/
def reachedWiring (p : Process) : Receiver.Wiring :=
  if p.service.receiver.any fun r => r.reached?.isSome then p.present else p.retired

def onReceiver (act : Receiver → Process) (p : Process) : Process :=
  match p.service.receiver with
  | some r => act r
  | none => p

/-- An event of the receiver that the broker reaches, if there is one. -/
def onReached (event : Receiver → Process) (p : Process) : Process :=
  match p.service.reached? with
  | some r => event r
  | none => p

def after [Host] (zone : Zone) (p : Process) : Act → Process
  | .build => p.onReceiver fun r =>
    match r.build with
    | .ok built => (p.withReceiver built).numbering (Receiver.builtWiring p.books.built p.present)
    | .error _ => p
  | .start broker seconds => p.onReceiver fun r =>
    let started := p.withReceiver (r.start broker seconds).receiver
    match r.build with
    | .ok _ => started.numbering (Receiver.startedWiring p.books.built p.present r)
    | .error _ => started
  | .stop broker => p.onReceiver fun r => p.withReceiver (r.stop broker).receiver
  | .handle m => p.onReceiver fun r =>
    let done := r.handle zone p.tree m.topic m.payload
    { p.withReceiver done.receiver with
      tree := done.tree
      books := p.books.note m done.outcome (r.taker? p.present) }
  | .startService given broker seconds =>
    let started := { p with service := (p.service.start given p.tree broker seconds).service }
    -- A service that has a receiver does not start it again.
    if p.service.receiver.isNone && started.service.receiver.any (·.intake.isSome) then
      started.numbering ⟨p.books.built, p.books.built, p.books.built⟩
    else started
  | .stopService broker =>
    let stopped := p.service.receiver.map fun r => (r.stop broker).receiver
    { p with
      service := (p.service.stop broker).1
      retired := if stopped.any fun r => r.reached?.isSome then p.present else p.retired }
  | .message m => p.onReached fun r =>
    let done := r.deliver zone p.tree m.topic m.payload
    { p with
      service := p.service.withReached done.receiver
      tree := done.tree
      books := p.books.note m done.outcome (r.reachedTaker? p.reachedWiring) }
  | .drop code => p.onReached fun r =>
    { p with service := p.service.withReached (r.drop code).receiver }
  | .acknowledge code => p.onReached fun r =>
    { p with service := p.service.withReached (r.acknowledge code).receiver }
  | .change alter => { p with tree := alter p.tree }

def run [Host] (zone : Zone) (p : Process) (acts : List Act) : Process := acts.foldl (after zone) p

def pipelinesOf (w : Receiver.Wiring) : Option Receiver → List (Nat × Intake)
  | some r => r.pipelines w
  | none => []

def live (p : Process) : List (Nat × Intake) :=
  pipelinesOf p.present p.service.receiver ++ pipelinesOf p.retired p.service.retired

/-- The numbers agree with the links, and the books with the pipelines. -/
structure Sound (p : Process) : Prop where
  present : ∀ r, p.service.receiver = some r → r.Wired p.present
  retired : ∀ r, p.service.retired = some r → r.Wired p.retired
  books : p.books.Sound p.live

namespace Sound

variable {zone : Zone} {p : Process} {r : Receiver}

theorem new (environment : Environment) (given : Option (Settings × Threshold)) (tree : Tree) :
    (Process.new environment given tree).Sound := by
  cases given with
  | none => exact ⟨by rintro r ⟨⟩, by rintro r ⟨⟩, .empty⟩
  | some given =>
    refine ⟨?_, by rintro r ⟨⟩, .empty⟩
    rintro r ⟨⟩
    exact ⟨by rintro ⟨⟩, by rintro ⟨⟩⟩

theorem live_of_receiver (hReceiver : p.service.receiver = some r) :
    p.live = r.pipelines p.present ++ pipelinesOf p.retired p.service.retired := by
  rw [live, hReceiver]
  rfl

/-- A change of the present receiver, to which the books are brought up. -/
theorem withReceiver (h : p.Sound) {r' : Receiver} {w : Receiver.Wiring} {books : Books}
    (tree : Tree) (hWired : r'.Wired w)
    (hBooks : books.Sound (r'.pipelines w ++ pipelinesOf p.retired p.service.retired)) :
    Sound { p with
      service := { p.service with receiver := some r' }
      tree
      present := w
      books } := by
  refine ⟨?_, h.retired, hBooks⟩
  rintro r ⟨⟩
  exact hWired

/-- A receiver that feeds what it fed before changes nothing in the books. -/
theorem feedsAs (h : p.Sound) (hReceiver : p.service.receiver = some r) {r' : Receiver}
    (hFeeds : r.FeedsAs r') : (p.withReceiver r').Sound := by
  refine h.withReceiver p.tree (hFeeds.wired (h.present r hReceiver)) ?_
  rw [hFeeds.pipelines, ← live_of_receiver hReceiver]
  exact h.books

/-- A receiver with a fresh pipeline, which has the next number. -/
theorem numbering (h : p.Sound) (hReceiver : p.service.receiver = some r) {r' : Receiver}
    {w : Receiver.Wiring} (hRenews : r.Renews p.books.built p.present w r') :
    ((p.withReceiver r').numbering w).Sound := by
  obtain ⟨hWired, intake, rest, hFresh, hRest, hPipelines⟩ := hRenews
  refine h.withReceiver p.tree hWired ?_
  have hLive : (rest ++ pipelinesOf p.retired p.service.retired).Sublist p.live := by
    rw [live_of_receiver hReceiver]
    exact hRest.append_right _
  rw [hPipelines]
  exact (h.books.sublist hLive).build hFresh

theorem build [Host] (h : p.Sound) : (p.after zone .build).Sound := by
  simp only [after, onReceiver]
  split
  · rename_i r hReceiver
    have hWired := h.present r hReceiver
    simp only [Receiver.build]
    cases hPath : r.settings.outputPath with
    | error fault => exact h
    | ok path => exact h.numbering hReceiver (Receiver.renews_build hWired _ path)
  · exact h

theorem start [Host] (h : p.Sound) (broker : Broker) (seconds : Int) :
    (p.after zone (.start broker seconds)).Sound := by
  simp only [after, onReceiver]
  split
  · rename_i r hReceiver
    have hWired := h.present r hReceiver
    simp only [Receiver.build]
    cases hPath : r.settings.outputPath with
    | error fault =>
      rw [(Receiver.start_of_no_path hPath broker seconds).1]
      exact h.feedsAs hReceiver ⟨rfl, rfl, rfl⟩
    | ok path => exact h.numbering hReceiver (Receiver.renews_start hWired hPath _ broker seconds)
  · exact h

theorem stop [Host] (h : p.Sound) (broker : Broker) : (p.after zone (.stop broker)).Sound := by
  simp only [after, onReceiver]
  split
  · exact h.feedsAs ‹_› (Receiver.feedsAs_stop broker _)
  · exact h

theorem handle [Host] (h : p.Sound) (m : Message) : (p.after zone (.handle m)).Sound := by
  simp only [after, onReceiver]
  split
  · rename_i r hReceiver
    have hWired := h.present r hReceiver
    have hTakes := Receiver.takes_handle zone p.tree m p.present r
    refine h.withReceiver _ (Receiver.wired_handle zone p.tree m _ r hWired) ?_
    have hBooks := h.books
    rw [live_of_receiver hReceiver] at hBooks
    exact hBooks.note (hTakes.append_right _)
  · exact h

/-- A receiver that has just been made has no pipelines, whatever numbers they would have. -/
theorem equipped (h : p.Sound) (hReceiver : p.service.receiver = none) (environment : Environment)
    (settings : Settings) (threshold : Threshold) (w : Receiver.Wiring) :
    Sound { p with
      service := ⟨environment, some (.new settings threshold), p.service.retired⟩
      present := w } := by
  have hBooks := h.books
  rw [live, hReceiver] at hBooks
  refine ⟨?_, h.retired, hBooks⟩
  rintro r ⟨⟩
  exact ⟨by rintro ⟨⟩, by rintro ⟨⟩⟩

theorem startService [Host] (h : p.Sound) (given : Option Settings) (broker : Broker)
    (seconds : Int) :
    (p.after zone (.startService given broker seconds)).Sound := by
  simp only [after]
  obtain hStart | ⟨hReceiver, environment, hStart⟩ | ⟨hReceiver, environment, settings, hStart⟩ :=
    Service.start_cases given p.tree broker seconds p.service
  · rw [hStart]
    have hNot : ¬ (p.service.receiver.isNone &&
        p.service.receiver.any (·.intake.isSome)) = true := by
      cases p.service.receiver <;> simp
    rw [if_neg hNot]
    exact h
  · rw [hStart]
    simp only [hReceiver, Option.any_none, Bool.and_false, Bool.false_eq_true, if_false]
    have hBooks := h.books
    rw [live, hReceiver] at hBooks
    exact ⟨by rintro r ⟨⟩, h.retired, hBooks⟩
  · rw [hStart]
    simp only [hReceiver, Option.isNone_none, Option.any_some, Bool.true_and]
    have hEquipped := h.equipped hReceiver environment settings .everything
    cases hPath : (Receiver.new settings .everything).settings.outputPath with
    | error fault =>
      rw [(Receiver.start_of_no_path hPath broker seconds).1]
      exact hEquipped p.present
    | ok path =>
      have hSound := hEquipped ⟨p.books.built, p.books.built, p.books.built⟩
      have hWired := hSound.present _ rfl
      have hRenews := Receiver.renews_start hWired hPath p.books.built broker seconds
      rw [Receiver.startedWiring_self] at hRenews
      rw [if_pos (Receiver.isSome_intake_start hPath broker seconds)]
      exact hSound.numbering rfl hRenews

theorem reached_cases (hReached : p.service.reached? = some r) :
    (p.service.receiver = some r ∧ p.reachedWiring = p.present ∧
        ∀ r', p.service.withReached r' = { p.service with receiver := some r' }) ∨
      (p.service.retired = some r ∧ p.reachedWiring = p.retired ∧
        ∀ r', p.service.withReached r' = { p.service with retired := some r' }) := by
  obtain ⟨hReceiver, hLink⟩ | ⟨hRetired, hLink⟩ := Service.reached_cases hReached
  · exact .inl ⟨hReceiver, by simp [reachedWiring, hLink],
      fun r' => by simp [Service.withReached, hLink]⟩
  · exact .inr ⟨hRetired, by simp [reachedWiring, hLink],
      fun r' => by simp [Service.withReached, hLink]⟩

/-- A change of the receiver that the broker reaches, to which the books are brought up whatever
other pipelines there are. -/
theorem withReached (h : p.Sound) (hReached : p.service.reached? = some r) {r' : Receiver}
    {books : Books} (tree : Tree) (hWired : r.Wired p.reachedWiring → r'.Wired p.reachedWiring)
    (hBooks : ∀ before after, p.books.Sound (before ++ (r.pipelines p.reachedWiring ++ after)) →
      books.Sound (before ++ (r'.pipelines p.reachedWiring ++ after))) :
    Sound { p with service := p.service.withReached r', tree, books } := by
  obtain ⟨hReceiver, hWiring, hWith⟩ | ⟨hRetired, hWiring, hWith⟩ := reached_cases hReached
  · rw [hWith]
    rw [hWiring] at hWired hBooks
    have hOld := h.books
    rw [live_of_receiver hReceiver] at hOld
    exact h.withReceiver tree (hWired (h.present r hReceiver)) (hBooks [] _ hOld)
  · rw [hWith]
    rw [hWiring] at hWired hBooks
    have hOld := h.books
    rw [live, hRetired] at hOld
    refine ⟨h.present, ?_, ?_⟩
    · rintro other ⟨⟩
      exact hWired (h.retired r hRetired)
    · have hNew := hBooks (pipelinesOf p.present p.service.receiver) []
      simp only [List.append_nil] at hNew
      exact hNew hOld

theorem message [Host] (h : p.Sound) (m : Message) : (p.after zone (.message m)).Sound := by
  simp only [after, onReached]
  split
  · rename_i r hReached
    have hTakes := Receiver.takes_deliver zone p.tree m p.reachedWiring r
    refine h.withReached hReached _ (Receiver.wired_deliver zone p.tree m _ r) ?_
    intro before after hBooks
    exact hBooks.note ((hTakes.append_right after).append_left before)
  · exact h

theorem onReached_feedsAs (h : p.Sound) {event : Receiver → Receiver}
    (hEvent : ∀ r : Receiver, r.FeedsAs (event r)) :
    (p.onReached fun r => { p with service := p.service.withReached (event r) }).Sound := by
  simp only [onReached]
  split
  · rename_i r hReached
    refine h.withReached hReached p.tree (hEvent r).wired ?_
    intro before after hBooks
    rwa [(hEvent r).pipelines]
  · exact h

/-- A receiver that is given up is retired with its pipelines, or they are given up too. -/
theorem stopService [Host] (h : p.Sound) (broker : Broker) :
    (p.after zone (.stopService broker)).Sound := by
  simp only [after, Service.stop]
  cases hReceiver : p.service.receiver with
  | none =>
    simp only [Option.map_none, Option.any_none, Bool.false_eq_true, if_false]
    exact h
  | some r =>
    have hStopped := h.feedsAs hReceiver (Receiver.feedsAs_stop broker r)
    have hBooks := hStopped.books
    rw [live_of_receiver rfl] at hBooks
    simp only [Option.map_some, Option.any_some, Service.retire]
    -- One of the two receivers keeps its pipelines, and those of the other are gone.
    split
    · refine ⟨by rintro other ⟨⟩, ?_, hBooks.sublist (List.sublist_append_left _ _)⟩
      rintro other ⟨⟩
      exact hStopped.present _ rfl
    · exact ⟨by rintro other ⟨⟩, h.retired, hBooks.sublist (List.sublist_append_right _ _)⟩

end Sound

/-- Every act keeps the books in agreement with the pipelines. -/
theorem sound_after [Host] (zone : Zone) {p : Process} (h : p.Sound) (act : Act) :
    (p.after zone act).Sound := by
  cases act with
  | build => exact h.build
  | start broker seconds => exact h.start broker seconds
  | stop broker => exact h.stop broker
  | handle m => exact h.handle m
  | startService given broker seconds => exact h.startService given broker seconds
  | stopService broker => exact h.stopService broker
  | message m => exact h.message m
  | drop code => exact h.onReached_feedsAs (Receiver.feedsAs_drop code)
  | acknowledge code => exact h.onReached_feedsAs (Receiver.feedsAs_acknowledge code)
  | change alter => exact ⟨h.present, h.retired, h.books⟩

theorem sound_run [Host] (zone : Zone) {p : Process} (h : p.Sound) (acts : List Act) :
    (p.run zone acts).Sound := by
  induction acts generalizing p with
  | nil => exact h
  | cons act rest ih => exact ih (sound_after zone h act)

/-- The record numbers of a process. The number of a row is its place among the data messages that
its pipeline has taken; so the numbers of one pipeline go up, and those of the whole process go up
exactly when a row that comes after one of another pipeline always has the greater place. -/
theorem numbers_increase_iff [Host] (zone : Zone) (environment : Environment)
    (given : Option (Settings × Threshold)) (tree : Tree) (acts : List Act) :
    let rows := ((new environment given tree).run zone acts).books.rows
    (∀ row ∈ rows, row.number = row.place) ∧
      (rows.Pairwise fun earlier later =>
        earlier.pipeline = later.pipeline → earlier.number < later.number) ∧
      ((rows.map (·.number)).Pairwise (· < ·) ↔
        rows.Pairwise fun earlier later =>
          earlier.pipeline ≠ later.pipeline → earlier.place < later.place) := by
  intro rows
  have hBooks := (sound_run zone (.new environment given tree) acts).books
  have hNumber : ∀ row ∈ rows, row.number = row.place := by
    intro row hRow
    exact (hBooks.numbered row hRow).1
  have hSame : rows.Pairwise fun earlier later =>
      earlier.pipeline = later.pipeline → earlier.number < later.number := by
    refine hBooks.ordered.imp_of_mem ?_
    intro earlier later hEarlier hLater hPlace hPipeline
    rw [hNumber earlier hEarlier, hNumber later hLater]
    exact Int.ofNat_lt.mpr (hPlace hPipeline)
  refine ⟨hNumber, hSame, ?_⟩
  rw [List.pairwise_map]
  constructor
  · intro hIncrease
    refine hIncrease.imp_of_mem ?_
    intro earlier later hEarlier hLater hLess _
    rw [hNumber earlier hEarlier, hNumber later hLater] at hLess
    exact Int.ofNat_lt.mp hLess
  · intro hOther
    refine (hSame.and hOther).imp_of_mem ?_
    intro earlier later hEarlier hLater hBoth
    by_cases hPipeline : earlier.pipeline = later.pipeline
    · exact hBoth.1 hPipeline
    · rw [hNumber earlier hEarlier, hNumber later hLater]
      exact Int.ofNat_lt.mpr (hBoth.2 hPipeline)

def usualSettings : Settings :=
  { brokerHost := .text "broker.local"
    brokerPort := some 8884
    transport := .text "tcp"
    wsPath := .text "/mqtt"
    useTls := some false
    username := none
    password := none
    topic := .text "cs/v1/#"
    qos := some 1
    clientId := .text "test-subscriber"
    outputFolder := .text "Datalog"
    outputFile := .text "datalog.csv"
    logLevel := "INFO"
    statsEvery := 100 }

attribute [local instance] Host.usual

/-- A receiver that is stopped and started again numbers its rows from one again, in the same
file. -/
theorem numbers_repeat_after_restart :
    let begun := new [] (some (usualSettings, .everything)) .empty
    let last := begun.run .universal
      [.start .welcoming 0, .message .sample, .stop .welcoming, .start .welcoming 0,
        .message .sample]
    last.books.rows.map (·.number) = [1, 1] ∧
      ¬ (last.books.rows.map (·.number)).Pairwise (· < ·) ∧
      last.tree.readFile? LogWriter.usualPath = some
        "record_no,timestamp,A\n1,1970-01-01 00:00:00,1.0\n1,1970-01-01 00:00:00,1.0\n" := by
  intro begun last
  have hNumbers : last.books.rows.map (·.number) = [1, 1] := by decide +kernel
  refine ⟨hNumbers, ?_, by decide +kernel⟩
  rw [hNumbers]
  decide

end Process

end TelemetryLog
