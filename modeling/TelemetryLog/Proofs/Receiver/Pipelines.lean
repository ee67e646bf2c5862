import TelemetryLog.Proofs.Intake.Desk
import TelemetryLog.Proofs.Session.Waiting
import TelemetryLog.Receiver

/-! The pipelines of a receiver. A receiver can have several intakes at a time: its own, and those
that its links have been set to feed and go on feeding. `Wiring` gives them numbers, and `pipelines`
lists them. There are three kinds of acts of a receiver: some leave the pipelines as they are
(`FeedsAs`), some give it a fresh one and may give up others (`Renews`), and by some of them one of
the pipelines takes a message (`Takes`). -/

namespace TelemetryLog

namespace Link

variable {η : Type}

theorem handler_acknowledge (link : Link η) (code : Int) :
    (link.acknowledge code).link.handler = link.handler := by
  obtain ⟨connected, hLink⟩ := link.acknowledge_link code
  rw [hLink]

theorem handler_connect (broker : Broker) (link : Link η) :
    (link.connect broker).link.handler = link.handler := by
  obtain ⟨connected, hLink⟩ := link.connect_link broker
  rw [hLink]

end Link

namespace Receiver

/-- The numbers of the intakes that a receiver has to do with: its own, and those that its links
feed. -/
structure Wiring where
  intake : Nat
  link : Nat
  formerLink : Nat

def feed? (link : Option (Link Feed)) : Option Feed := link.bind (·.handler)

/-- The intake that is fed and that the receiver no longer has. -/
def formerIntake? : Option Feed → Option Intake
  | some (.former intake) => some intake
  | _ => none

def numbered (n : Nat) (intake : Option Intake) : List (Nat × Intake) :=
  (intake.map (n, ·)).toList

/-- The intakes that a receiver no longer has and that its links feed, with their numbers. -/
def formers (w : Wiring) (r : Receiver) : List (Nat × Intake) :=
  numbered w.link (formerIntake? (feed? r.link)) ++
    numbered w.formerLink (formerIntake? (feed? r.formerLink))

/-- The intakes that a receiver has to do with, with their numbers. -/
def pipelines (w : Wiring) (r : Receiver) : List (Nat × Intake) :=
  numbered w.intake r.intake ++ r.formers w

/-- The numbers agree with where the links lead: a link that feeds the intake of the receiver has
its number, and the former link does not feed it. -/
structure Wired (w : Wiring) (r : Receiver) : Prop where
  link : feed? r.link = some .current → w.link = w.intake
  formerLink : feed? r.formerLink ≠ some .current

/-- The number of the pipeline that takes a message which is given to the receiver. -/
def taker? (w : Wiring) (r : Receiver) : Option Nat := r.intake.map fun _ => w.intake

/-- The number of the pipeline that takes a message which arrives over the link that the broker
reaches. -/
def reachedTaker? (w : Wiring) (r : Receiver) : Option Nat :=
  match feed? r.reached? with
  | some .current => r.taker? w
  | some (.former _) => some (if r.hasClient then w.link else w.formerLink)
  | none => none

/-- The numbers once the receiver has a fresh intake with the number `n`. -/
def builtWiring (n : Nat) (w : Wiring) : Wiring := { w with intake := n }

/-- The numbers once the receiver has been started with a fresh intake with the number `n`. -/
def startedWiring (n : Nat) (w : Wiring) (r : Receiver) : Wiring :=
  ⟨n, n, if r.hasClient then w.link else w.formerLink⟩

/-- One of some intakes takes a message, and the others stay as they are; or none of them does. -/
def Takes [Host] (zone : Zone) (tree : Tree) (m : Message) (live live' : List (Nat × Intake))
    (outcome : Option Outcome) : Option Nat → Prop
  | some k =>
    ∃ before intake after, live = before ++ (k, intake) :: after ∧
      live' = before ++ (k, (Desk.take zone ⟨intake, tree⟩ m).intake) :: after ∧
      outcome = (Desk.take zone ⟨intake, tree⟩ m).outcome
  | none => live' = live ∧ outcome = none

/-- Two receivers with the same intake whose links feed the same. -/
structure FeedsAs (r r' : Receiver) : Prop where
  intake : r'.intake = r.intake
  link : feed? r'.link = feed? r.link
  formerLink : feed? r'.formerLink = feed? r.formerLink

/-- The receiver `r'` has a fresh pipeline with the number `n`, and besides it only pipelines that
`r` had. -/
structure Renews (n : Nat) (w w' : Wiring) (r r' : Receiver) : Prop where
  wired : Wired w' r'
  pipelines : ∃ intake rest, intake.dispatcher.counter.value = 0 ∧
    rest.Sublist (r.pipelines w) ∧ r'.pipelines w' = (n, intake) :: rest

variable {w : Wiring} {r : Receiver} {path : Path}

namespace Takes

variable [Host] {zone : Zone} {tree : Tree} {m : Message} {live live' : List (Nat × Intake)}
  {outcome : Option Outcome} {taker : Option Nat}

theorem append_right (h : Takes zone tree m live live' outcome taker)
    (others : List (Nat × Intake)) :
    Takes zone tree m (live ++ others) (live' ++ others) outcome taker := by
  cases taker with
  | none => exact ⟨by rw [h.1], h.2⟩
  | some k =>
    obtain ⟨before, intake, after, rfl, rfl, hOutcome⟩ := h
    exact ⟨before, intake, after ++ others, by simp, by simp, hOutcome⟩

theorem append_left (h : Takes zone tree m live live' outcome taker)
    (others : List (Nat × Intake)) :
    Takes zone tree m (others ++ live) (others ++ live') outcome taker := by
  cases taker with
  | none => exact ⟨by rw [h.1], h.2⟩
  | some k =>
    obtain ⟨before, intake, after, rfl, rfl, hOutcome⟩ := h
    exact ⟨others ++ before, intake, after, by simp, by simp, hOutcome⟩

end Takes

theorem formerIntake?_setAside (intake : Option Intake) (feed : Option Feed) :
    formerIntake? (setAside intake feed) =
      if feed = some .current then intake else formerIntake? feed := by
  unfold setAside
  split
  · cases intake <;> rfl
  · rw [if_neg ‹_›]

theorem setAside_ne_current (intake : Option Intake) (feed : Option Feed) :
    setAside intake feed ≠ some .current := by
  unfold setAside
  split
  · cases intake <;> simp
  · exact ‹_›

theorem feed?_keepFeeding (intake : Option Intake) (link : Option (Link Feed)) :
    feed? (link.map (keepFeeding intake)) = setAside intake (feed? link) := by
  cases link <;> rfl

theorem hasClient_buildAt (path : Path) (r : Receiver) :
    (r.buildAt path).hasClient = r.hasClient := by
  simp only [hasClient, buildAt]
  cases r.link <;> rfl

/-- The intakes that the links of a receiver go on feeding are among those that it had. -/
theorem formers_buildAt (hWired : Wired w r) (path : Path) :
    ((r.buildAt path).formers w).Sublist (r.pipelines w) := by
  simp only [formers, buildAt, feed?_keepFeeding, formerIntake?_setAside,
    if_neg hWired.formerLink]
  rw [pipelines, formers, ← List.append_assoc]
  refine List.Sublist.append_right ?_ _
  split
  · rename_i hCurrent
    rw [hWired.link hCurrent]
    exact List.sublist_append_left _ _
  · exact List.sublist_append_right _ _

theorem feed?_buildAt_link (r : Receiver) (path : Path) :
    feed? (r.buildAt path).link ≠ some .current := by
  rw [buildAt, feed?_keepFeeding]
  exact setAside_ne_current _ _

theorem feed?_buildAt_formerLink (r : Receiver) (path : Path) :
    feed? (r.buildAt path).formerLink ≠ some .current := by
  rw [buildAt, feed?_keepFeeding]
  exact setAside_ne_current _ _

theorem wired_buildAt (w : Wiring) (r : Receiver) (path : Path) : Wired w (r.buildAt path) :=
  ⟨fun hCurrent => absurd hCurrent (feed?_buildAt_link r path), feed?_buildAt_formerLink r path⟩

/-- What a start makes of the receiver: it is built, and has another link that feeds its intake. -/
theorem start_of_path (h : r.settings.outputPath = .ok path) (broker : Broker) (seconds : Int) :
    ∃ link running, feed? (some link) = some .current ∧
      (r.start broker seconds).receiver =
        { r.buildAt path with
          link := some link
          formerLink := (r.buildAt path).reached?
          running } := by
  have hHandler : feed? (some ((freshLink r.settings seconds).connect broker).link) =
      some .current := Link.handler_connect broker _
  rw [start, startBy_of_path h]
  exact ⟨_, _, hHandler, rfl⟩

/-- A start changes nothing and makes no calls if the settings give no path. -/
theorem start_of_no_path {fault : OutputFault} (h : r.settings.outputPath = .error fault)
    (broker : Broker) (seconds : Int) :
    (r.start broker seconds).receiver = r ∧ (r.start broker seconds).success = false ∧
      (r.start broker seconds).trace.calls = [] := by
  rw [start, startBy_of_no_path h]
  exact ⟨rfl, rfl, rfl⟩

theorem renews_build (hWired : Wired w r) (n : Nat) (path : Path) :
    Renews n w (builtWiring n w) r (r.buildAt path) := by
  refine ⟨wired_buildAt _ r path, freshIntake r.settings r.threshold path,
    (r.buildAt path).formers w, rfl, formers_buildAt hWired path, ?_⟩
  rfl

/-- A receiver that is started gives up what the link before the last one has fed. -/
theorem renews_start (hWired : Wired w r) (hPath : r.settings.outputPath = .ok path) (n : Nat)
    (broker : Broker) (seconds : Int) :
    Renews n w (startedWiring n w r) r (r.start broker seconds).receiver := by
  obtain ⟨link, running, hLink, hStarted⟩ := start_of_path hPath broker seconds
  have hReached : (r.buildAt path).reached? =
      if r.hasClient then (r.buildAt path).link else (r.buildAt path).formerLink := by
    rw [reached?, hasClient_buildAt]
  have hFeed : feed? (r.buildAt path).reached? ≠ some .current := by
    rw [hReached]
    split
    · exact feed?_buildAt_link r path
    · exact feed?_buildAt_formerLink r path
  rw [hStarted]
  refine ⟨⟨fun _ => rfl, hFeed⟩, freshIntake r.settings r.threshold path,
    numbered (if r.hasClient then w.link else w.formerLink)
      (formerIntake? (feed? (r.buildAt path).reached?)), rfl, ?_, ?_⟩
  · refine List.Sublist.trans ?_ (formers_buildAt hWired path)
    rw [hReached, formers]
    split
    · exact List.sublist_append_left _ _
    · exact List.sublist_append_right _ _
  · simp only [pipelines, formers, hLink]
    rfl

theorem isSome_intake_start (hPath : r.settings.outputPath = .ok path) (broker : Broker)
    (seconds : Int) : (r.start broker seconds).receiver.intake.isSome = true := by
  obtain ⟨link, running, -, hStarted⟩ := start_of_path hPath broker seconds
  rw [hStarted]
  rfl

theorem startedWiring_self (n : Nat) (r : Receiver) :
    startedWiring n ⟨n, n, n⟩ r = ⟨n, n, n⟩ := by
  simp [startedWiring]

theorem FeedsAs.pipelines {r r' : Receiver} (h : FeedsAs r r') (w : Wiring) :
    r'.pipelines w = r.pipelines w := by
  simp only [Receiver.pipelines, formers, h.intake, h.link, h.formerLink]

theorem FeedsAs.wired {r r' : Receiver} (h : FeedsAs r r') (hWired : Wired w r) : Wired w r' := by
  refine ⟨fun hCurrent => hWired.link (h.link ▸ hCurrent), ?_⟩
  rw [h.formerLink]
  exact hWired.formerLink

theorem feedsAs_stop (broker : Broker) (r : Receiver) : FeedsAs r (r.stop broker).receiver := by
  unfold stop
  split
  · rename_i link hLink
    exact ⟨rfl, by rw [hLink]; rfl, rfl⟩
  · exact ⟨rfl, rfl, rfl⟩

theorem feedsAs_onReached {event : Link Feed → Linked Feed}
    (hEvent : ∀ link, (event link).link.handler = link.handler) (r : Receiver) :
    FeedsAs r (r.onReached event).receiver := by
  unfold onReached
  split
  · rename_i link hReached
    have hFeed : feed? (some (event link).link) = feed? r.reached? := by
      rw [hReached]
      exact hEvent link
    simp only [withReached]
    unfold reached? at hFeed
    split
    · rw [if_pos ‹_›] at hFeed
      exact ⟨rfl, hFeed, rfl⟩
    · rw [if_neg ‹_›] at hFeed
      exact ⟨rfl, rfl, hFeed⟩
  · exact ⟨rfl, rfl, rfl⟩

theorem feedsAs_drop (code : Int) (r : Receiver) : FeedsAs r (r.drop code).receiver :=
  feedsAs_onReached (fun _ => rfl) r

theorem feedsAs_acknowledge (code : Int) (r : Receiver) :
    FeedsAs r (r.acknowledge code).receiver :=
  feedsAs_onReached (fun link => link.handler_acknowledge code) r

section Message

variable [Host] (zone : Zone) (tree : Tree) (m : Message) (w : Wiring) (r : Receiver)

theorem takes_handle :
    let done := r.handle zone tree m.topic m.payload
    Takes zone tree m (r.pipelines w) (done.receiver.pipelines w) done.outcome (r.taker? w) := by
  simp only [handle, taker?]
  cases hIntake : r.intake with
  | none => exact ⟨rfl, rfl⟩
  | some intake =>
    refine ⟨[], intake, r.formers w, ?_, rfl, rfl⟩
    rw [pipelines, hIntake]
    rfl

theorem wired_handle (hWired : Wired w r) :
    Wired w (r.handle zone tree m.topic m.payload).receiver := by
  unfold handle
  split
  · exact ⟨hWired.link, hWired.formerLink⟩
  · exact hWired

theorem takes_deliver :
    let done := r.deliver zone tree m.topic m.payload
    Takes zone tree m (r.pipelines w) (done.receiver.pipelines w) done.outcome
      (r.reachedTaker? w) := by
  simp only [deliver, reachedTaker?]
  cases hReached : r.reached? with
  | none => exact ⟨rfl, rfl⟩
  | some link =>
    simp only [deliverOver, feed?, Option.bind_some]
    cases hHandler : link.handler with
    | none => exact ⟨rfl, rfl⟩
    | some feed =>
      cases feed with
      | current => exact takes_handle zone tree m w r
      | former intake =>
        -- The intake is that of the present link or of the former one.
        unfold reached? at hReached
        simp only [withReached]
        split
        · rw [if_pos ‹_›] at hReached
          refine ⟨numbered w.intake r.intake, intake,
            numbered w.formerLink (formerIntake? (feed? r.formerLink)), ?_, rfl, rfl⟩
          simp only [pipelines, formers, hReached, feed?, Option.bind_some, hHandler]
          rfl
        · rw [if_neg ‹_›] at hReached
          refine ⟨numbered w.intake r.intake ++ numbered w.link (formerIntake? (feed? r.link)),
            intake, [], ?_, ?_, rfl⟩
          · simp only [pipelines, formers, hReached, feed?, Option.bind_some, hHandler,
              List.append_assoc]
            rfl
          · simp only [pipelines, formers, List.append_assoc]
            rfl

theorem wired_deliver (hWired : Wired w r) :
    Wired w (r.deliver zone tree m.topic m.payload).receiver := by
  unfold deliver
  split
  · unfold deliverOver
    split
    · exact wired_handle zone tree m w r hWired
    · simp only [withReached]
      split
      · exact ⟨(fun hCurrent => by cases hCurrent), hWired.formerLink⟩
      · exact ⟨hWired.link, fun hCurrent => by cases hCurrent⟩
    · exact hWired
  · exact hWired

end Message

end Receiver

end TelemetryLog
