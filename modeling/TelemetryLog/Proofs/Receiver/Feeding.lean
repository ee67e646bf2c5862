import TelemetryLog.Proofs.Intake.Independence
import TelemetryLog.Proofs.Receiver.Station
import TelemetryLog.Proofs.Service.Numbering

/-! A receiver that takes in what comes over its link. After a start that succeeds, a message that
arrives over the link fares as one that is given to the receiver: the station is a desk at which the
messages are taken. What becomes of the link, which may be lost and answered again, is nothing to
the desk. -/

namespace TelemetryLog

theorem Link.createFault_of_success {η : Type} {broker : Broker} {link : Link η}
    (h : (link.connect broker).success = true) : broker.createFault = none := by
  cases hFault : broker.createFault with
  | none => rfl
  | some reason => simp [connect, hFault] at h

namespace Receiver

/-- What comes over the link that the broker reaches goes to an intake, which is that of the
receiver. -/
structure Feeds (intake : Intake) (r : Receiver) : Prop where
  intake : r.intake = some intake
  feed : feed? r.reached? = some .current

variable {r : Receiver} {intake : Intake}

/-- A start succeeds if the settings give a path and the link connects. -/
theorem start_success (broker : Broker) (seconds : Int) (r : Receiver) :
    (r.start broker seconds).success = true ↔
      (∃ path, r.settings.outputPath = .ok path) ∧
        ((freshLink r.settings seconds).connect broker).success = true := by
  cases hPath : r.settings.outputPath with
  | error fault => simp [start, startBy_of_no_path hPath]
  | ok path => simp [start, startBy_of_path hPath]

/-- A receiver that has been started with success feeds the intake that the start has made. -/
theorem feeds_start {path : Path} (hPath : r.settings.outputPath = .ok path) {broker : Broker}
    {seconds : Int} (hSuccess : (r.start broker seconds).success = true) :
    Feeds (freshIntake r.settings r.threshold path) (r.start broker seconds).receiver := by
  have hClient : (r.start broker seconds).receiver.hasClient = true := by
    have hConnected := ((start_success broker seconds r).mp hSuccess).2
    rw [(startedFrom_start hPath broker seconds).hasClient, Link.createFault_of_success hConnected]
    rfl
  obtain ⟨link, running, hLink, hStarted⟩ := start_of_path hPath broker seconds
  refine ⟨by rw [hStarted]; rfl, ?_⟩
  rw [reached?, if_pos hClient, hStarted]
  exact hLink

namespace Feeds

theorem withIntake (h : r.Feeds intake) (other : Intake) :
    Feeds other { r with intake := some other } := ⟨rfl, h.feed⟩

/-- A receiver whose links feed the same, and whose client neither comes nor goes. -/
theorem feedsAs (h : r.Feeds intake) {r' : Receiver} (hFeeds : FeedsAs r r')
    (hClient : r'.hasClient = r.hasClient) : r'.Feeds intake := by
  refine ⟨hFeeds.intake.trans h.intake, ?_⟩
  rw [← h.feed, reached?, reached?, hClient]
  split
  · exact hFeeds.link
  · exact hFeeds.formerLink

theorem drop (h : r.Feeds intake) (code : Int) : Feeds intake (r.drop code).receiver :=
  h.feedsAs (feedsAs_drop code r) (goesOnAs_onReached (fun _ => rfl) r).hasClient

theorem acknowledge (h : r.Feeds intake) (code : Int) :
    Feeds intake (r.acknowledge code).receiver := by
  refine h.feedsAs (feedsAs_acknowledge code r) (goesOnAs_onReached (fun link => ?_) r).hasClient
  obtain ⟨connected, hLink⟩ := link.acknowledge_link code
  rw [hLink]

/-- A message that arrives over the link is taken as at a desk. -/
theorem deliver_eq [Host] (h : r.Feeds intake) (zone : Zone) (tree : Tree) (m : Message) :
    let done := Desk.take zone ⟨intake, tree⟩ m
    r.deliver zone tree m.topic m.payload =
      ⟨{ r with intake := some done.intake }, done.tree, done.journal, done.outcome⟩ := by
  obtain ⟨link, hReached, hHandler⟩ := Option.bind_eq_some_iff.mp h.feed
  simp only [deliver, hReached, deliverOver, hHandler, handle, h.intake]
  rfl

end Feeds

end Receiver

namespace Station

/-- Messages that come over the link are taken as at a desk. -/
structure TakesAt (desk : Desk) (s : Station) : Prop where
  feeds : s.receiver.Feeds desk.intake
  tree : s.tree = desk.tree

/-- A message that comes over the link, as what it is for the desk. -/
def Turn.event? : Turn → Option Event
  | .message m => some (.message m)
  | _ => none

def Turn.isMessage (turn : Turn) : Bool := turn.event?.isSome

theorem filterMap_event?_filter (turns : List Turn) :
    (turns.filter Turn.isMessage).filterMap Turn.event? = turns.filterMap Turn.event? := by
  rw [List.filterMap_filter]
  refine List.filterMap_congr fun turn _ => ?_
  cases hEvent : turn.event? <;> simp [Turn.isMessage, hEvent]

section

variable [Host]

/-- The outcomes of the messages that come over the link in a run, in order. -/
def outcomes (zone : Zone) (s : Station) : List Turn → List (Option Outcome)
  | [] => []
  | .message m :: rest =>
    (s.receiver.deliver zone s.tree m.topic m.payload).outcome ::
      outcomes zone (s.after zone (.message m)) rest
  | turn :: rest => outcomes zone (s.after zone turn) rest

variable {zone : Zone} {s : Station} {desk : Desk}

theorem takesAt_start {path : Path} (hPath : s.receiver.settings.outputPath = .ok path)
    {broker : Broker} {seconds : Int}
    (hSuccess : (s.receiver.start broker seconds).success = true) :
    TakesAt ⟨Receiver.freshIntake s.receiver.settings s.receiver.threshold path, s.tree⟩
      (s.after zone (.start broker seconds)) :=
  ⟨Receiver.feeds_start hPath hSuccess, rfl⟩

namespace TakesAt

theorem message (h : s.TakesAt desk) (zone : Zone) (m : Message) :
    (s.after zone (.message m)).TakesAt (desk.after zone (.message m)) := by
  simp only [after, h.tree, h.feeds.deliver_eq]
  exact ⟨h.feeds.withIntake _, rfl⟩

theorem outcome (h : s.TakesAt desk) (zone : Zone) (m : Message) :
    (s.receiver.deliver zone s.tree m.topic m.payload).outcome = (desk.take zone m).outcome := by
  rw [h.feeds.deliver_eq, h.tree]

/-- What comes over the link and is no message leaves the desk as it is. -/
theorem other (h : s.TakesAt desk) (zone : Zone) {turn : Turn}
    (hLink : turn.comesOverLink = true) (hOther : turn.event? = none) :
    (s.after zone turn).TakesAt desk := by
  cases turn with
  | drop code => exact ⟨h.feeds.drop code, h.tree⟩
  | acknowledge code => exact ⟨h.feeds.acknowledge code, h.tree⟩
  | message m => cases hOther
  | build | start | stop | handle | change => cases hLink

/-- A run of what comes over the link is a run of the messages at the desk. -/
theorem run (h : s.TakesAt desk) (zone : Zone) {turns : List Turn}
    (hLink : ∀ turn ∈ turns, turn.comesOverLink = true) :
    (s.run zone turns).TakesAt (desk.run zone (turns.filterMap Turn.event?)) ∧
      s.outcomes zone turns = desk.results zone (turns.filterMap Turn.event?) := by
  induction turns generalizing s desk with
  | nil => exact ⟨h, rfl⟩
  | cons turn rest ih =>
    obtain ⟨hTurn, hRest⟩ := List.forall_mem_cons.mp hLink
    cases hEvent : turn.event? with
    | none =>
      obtain ⟨hTakes, hOutcomes⟩ := ih (h.other zone hTurn hEvent) hRest
      rw [List.filterMap_cons_none hEvent, run_cons]
      refine ⟨hTakes, ?_⟩
      rw [← hOutcomes]
      cases turn with
      | message m => cases hEvent
      | _ => rfl
    | some event =>
      cases turn with
      | message m =>
        cases hEvent
        obtain ⟨hTakes, hOutcomes⟩ := ih (h.message zone m) hRest
        refine ⟨hTakes, ?_⟩
        rw [outcomes, h.outcome zone m, hOutcomes]
        rfl
      | _ => cases hEvent

end TakesAt

/-- Losses of the link do not disturb the receiver. Once it has been started with success, whatever
comes over the link, the outcomes of the messages, the intake with its record numbers and accounts,
and the tree with its files are those that the messages alone would give; and whatever has come so
far, a message that arrives over the link does what it does when it is given to the intake. -/
theorem undisturbed_by_losses (zone : Zone) {s : Station} {broker : Broker} {seconds : Int}
    {turns : List Turn} (hStarted : (s.receiver.start broker seconds).success = true)
    (hLink : ∀ turn ∈ turns, turn.comesOverLink = true) :
    let begun := s.after zone (.start broker seconds)
    let messages := turns.filter Turn.isMessage
    let whole := begun.run zone turns
    let erased := begun.run zone messages
    begun.outcomes zone messages = begun.outcomes zone turns ∧
      erased.receiver.intake = whole.receiver.intake ∧ erased.tree = whole.tree ∧
      ∃ intake, whole.receiver.intake = some intake ∧ ∀ m : Message,
        let done := intake.handle zone whole.tree m.topic m.payload
        whole.receiver.deliver zone whole.tree m.topic m.payload =
          ⟨{ whole.receiver with intake := some done.intake }, done.tree, done.journal,
            done.outcome⟩ := by
  intro begun messages whole erased
  obtain ⟨⟨path, hPath⟩, -⟩ := (Receiver.start_success broker seconds s.receiver).mp hStarted
  have hBegun : begun.TakesAt _ := takesAt_start hPath hStarted
  have hMessages : ∀ turn ∈ messages, turn.comesOverLink = true := by
    intro turn hTurn
    exact hLink turn (List.mem_of_mem_filter hTurn)
  obtain ⟨hWhole, hOutcomes⟩ := hBegun.run zone hLink
  obtain ⟨hErased, hErasedOutcomes⟩ := hBegun.run zone hMessages
  rw [filterMap_event?_filter] at hErased hErasedOutcomes
  refine ⟨hErasedOutcomes.trans hOutcomes.symm, hErased.feeds.intake.trans hWhole.feeds.intake.symm,
    hErased.tree.trans hWhole.tree.symm, _, hWhole.feeds.intake, fun m => ?_⟩
  exact hWhole.feeds.deliver_eq zone whole.tree m

end

attribute [local instance] Host.usual

/-- Two samples that come before and after the link is lost, answered again and refused are logged as
they are without that. -/
theorem undisturbed_by_losses_samples :
    let s := fresh Process.usualSettings .everything .empty
    let begun := s.after .universal (.start .welcoming 0)
    let turns : List Turn :=
      [.message .sample, .drop 7, .acknowledge 0, .acknowledge 5, .message .sample]
    let messages : List Turn := [.message .sample, .message .sample]
    (s.receiver.start .welcoming 0).success = true ∧
      (∀ turn ∈ turns, turn.comesOverLink = true) ∧
      begun.outcomes .universal messages = begun.outcomes .universal turns ∧
      (begun.run .universal messages).tree = (begun.run .universal turns).tree ∧
      (begun.run .universal turns).tree.readFile? LogWriter.usualPath = some
        "record_no,timestamp,A\n1,1970-01-01 00:00:00,1.0\n2,1970-01-01 00:00:00,1.0\n" := by
  intro s begun turns messages
  have hStarted : (s.receiver.start .welcoming 0).success = true := by decide +kernel
  have hLink : ∀ turn ∈ turns, turn.comesOverLink = true := by simp [turns, Turn.comesOverLink]
  obtain ⟨hOutcomes, -, hTree, -⟩ := undisturbed_by_losses .universal hStarted hLink
  exact ⟨hStarted, hLink, hOutcomes, hTree, by decide +kernel⟩

end Station

end TelemetryLog
