import Mathlib.Data.Nat.Find
import TelemetryLog.Proofs.Session.Conduct

/-! When a link tells the truth about having connected. While it waits for the broker it may hear of
its own client and of those that it had before, for nothing ends their loops; a broker that answers
once at most is a special case. At each look the link knows only whether it is up, and not which
client has brought it up, nor when. -/

namespace TelemetryLog

namespace Signal

def isOwn : Signal → Bool
  | .answer own _ | .loss own _ => own

/-- Whether a link is up once it has heard some signals: the last one decides. -/
def upAfter (before : Bool) (signals : List Signal) : Bool :=
  (signals.getLast?.map isAcceptance).getD before

theorem upAfter_append (before : Bool) (signals later : List Signal) :
    upAfter before (signals ++ later) = upAfter (upAfter before signals) later := by
  cases hLast : later.getLast? with
  | none => simp [upAfter, List.getLast?_append, hLast]
  | some s => simp [upAfter, List.getLast?_append, hLast]

/-- If some signals leave a link up that was not up before, the last one has accepted it. -/
theorem exists_acceptance {signals : List Signal} (h : upAfter false signals = true) :
    ∃ s ∈ signals, s.isAcceptance = true := by
  unfold upAfter at h
  cases hLast : signals.getLast? with
  | none => simp [hLast] at h
  | some s => exact ⟨s, List.mem_of_getLast? hLast, by simpa [hLast] using h⟩

theorem eq_answer_of_isAcceptance {s : Signal} (hOwn : s.isOwn = true)
    (hAccepts : s.isAcceptance = true) : s = .answer true Broker.accepted := by
  cases s with
  | answer own code =>
    obtain rfl : own = true := hOwn
    rw [of_decide_eq_true hAccepts]
  | loss own code => cases hAccepts

end Signal

namespace Air

/-- Whether a link to an endpoint gets as far as to wait. -/
def isClear (air : Air) (e : Endpoint) : Bool :=
  air.createFault.isNone && e.portNumber.isSome && air.connectFault.isNone

/-- The signals that a link has heard by one of its looks, which have the numbers of the pauses
before them. -/
def heardBy (air : Air) : Nat → List Signal
  | 0 => air.signals 0
  | look + 1 => air.heardBy look ++ air.signals (look + 1)

/-- Nothing but the client that is connecting is heard of; no acceptance is followed by another
signal before the next look; and none comes in the last pause, after which there is no look. -/
structure IsPlain (air : Air) : Prop where
  own : ∀ pause, ∀ s ∈ air.signals pause, s.isOwn = true
  lasting : ∀ pause, ∀ s ∈ air.signals pause, s.isAcceptance = true →
    Signal.upAfter false (air.signals pause) = true
  inTime : ∀ s ∈ air.signals Link.patience, s.isAcceptance = false

theorem isClear_iff {air : Air} {e : Endpoint} :
    air.isClear e = true ↔ air.createFault = none ∧
      (∃ portNumber, e.portNumber = some portNumber) ∧ air.connectFault = none := by
  simp [isClear, Option.isSome_iff_exists, and_assoc]

theorem heardBy_succ (air : Air) (look : Nat) :
    air.heardBy (look + 1) = air.heardBy look ++ air.signals (look + 1) := rfl

theorem mem_heardBy {air : Air} {s : Signal} {look : Nat} :
    s ∈ air.heardBy look ↔ ∃ pause ≤ look, s ∈ air.signals pause := by
  induction look with
  | zero => simp [heardBy]
  | succ look ih =>
    rw [heardBy, List.mem_append, ih]
    constructor
    · rintro (⟨pause, hPause, hSignal⟩ | hSignal)
      · exact ⟨pause, Nat.le_succ_of_le hPause, hSignal⟩
      · exact ⟨look + 1, Nat.le_refl _, hSignal⟩
    · rintro ⟨pause, hPause, hSignal⟩
      obtain hEarlier | rfl := Nat.le_succ_iff.mp hPause
      · exact .inl ⟨pause, hEarlier, hSignal⟩
      · exact .inr hSignal

/-- What a link has heard by a look, with the signals of the last pause apart. -/
theorem heardBy_eq_append (air : Air) (look : Nat) :
    ∃ earlier, air.heardBy look = earlier ++ air.signals look := by
  cases look with
  | zero => exact ⟨[], rfl⟩
  | succ look => exact ⟨air.heardBy look, rfl⟩

end Air

namespace Link

variable {η : Type}

def notice (link : Link η) (s : Signal) : Link η := (link.meet (.signal s)).link

/-- Connects as `Link.connect` does, whatever is in the air meanwhile. -/
def connectAmid (air : Air) (link : Link η) : Attempt η :=
  (link.connectAmong (air.conduct none)).attempt

/-- Whether a link that tries to connect is up at a look, if it has not been up at one before. -/
def isUpAt (air : Air) (link : Link η) (look : Nat) : Bool :=
  Signal.upAfter link.connected (air.heardBy look)

/-- The client that a link tries to connect is accepted before the wait ends: in a pause that comes,
since the link has not been up at any look before it. -/
def IsAccepted (air : Air) (link : Link η) : Prop :=
  air.isClear link.endpoint = true ∧ ∃ pause ≤ patience,
    (∀ look < pause, link.isUpAt air look = false) ∧
      .answer true Broker.accepted ∈ air.signals pause

theorem notice_eq (link : Link η) (s : Signal) :
    link.notice s = { link with connected := s.isAcceptance } := by
  cases s with
  | answer own code =>
    simp only [notice, meet, acknowledge, Signal.isAcceptance]
    split <;> simp_all
  | loss own code => rfl

theorem link_meetAll_signals (link : Link η) (signals : List Signal) :
    (link.meetAll (signals.map .signal)).link =
      { link with connected := Signal.upAfter link.connected signals } := by
  induction signals generalizing link with
  | nil => rfl
  | cons s rest ih =>
    have hRest : (link.meetAll ((s :: rest).map .signal)).link =
        ((link.notice s).meetAll (rest.map .signal)).link := rfl
    have hUp := Signal.upAfter_append link.connected [s] rest
    rw [hRest, ih, notice_eq, ← List.singleton_append, hUp]
    rfl

/-- A link that waits at the look after so many pauses comes up at the first look at which it is up;
if there is none, it is left as the signals of the last pause make it. -/
theorem waitAmong_spec (air : Air) (start : Link η) (pauses left : Nat) :
    let link := { start with connected := start.isUpAt air pauses }
    let ended := link.waitAmong (air.conduct none) pauses left
    (ended.success = true ↔ ∃ look < left, start.isUpAt air (pauses + look) = true) ∧
      ended.link.connected = (ended.success || start.isUpAt air (pauses + left)) := by
  induction left generalizing pauses with
  | zero => simp [waitAmong, Course.leaving]
  | succ left ih =>
    intro link ended
    cases hUp : start.isUpAt air pauses with
    | true =>
      have hEnded : ended = ⟨.leaving link .empty, true⟩ := by
        simp only [ended, link, waitAmong, hUp, if_true]
      rw [hEnded]
      exact ⟨iff_of_true rfl ⟨0, Nat.succ_pos _, hUp⟩, hUp⟩
    | false =>
      let met := link.meetAll ((air.signals (pauses + 1)).map .signal)
      have hNext : met.link = { start with connected := start.isUpAt air (pauses + 1) } := by
        rw [link_meetAll_signals, isUpAt, Air.heardBy, Signal.upAfter_append]
        rfl
      have hEnded : ended =
          met.leadsTo (met.link.waitAmong (air.conduct none) (pauses + 1) left) := by
        simp only [ended, waitAmong]
        exact if_neg (by simp [link, hUp])
      obtain ⟨hSuccess, hConnected⟩ := ih (pauses + 1)
      rw [hEnded, hNext]
      simp only [Course.leadsTo, Course.andThen]
      rw [hSuccess, hConnected]
      refine ⟨⟨?_, ?_⟩, by rw [Nat.add_assoc, Nat.add_comm 1 left]⟩
      · rintro ⟨look, hLook, hAt⟩
        exact ⟨look + 1, Nat.succ_lt_succ hLook, by rwa [Nat.add_assoc, Nat.add_comm 1] at hAt⟩
      · rintro ⟨look, hLook, hAt⟩
        cases look with
        | zero => simp [hUp] at hAt
        | succ look =>
          exact ⟨look, Nat.lt_of_succ_lt_succ hLook, by rwa [Nat.add_assoc, Nat.add_comm 1]⟩

theorem connect_eq_connectAmid (broker : Broker) (link : Link η) :
    link.connect broker = link.connectAmid broker.air :=
  (attempt_connectAmong_air broker none link).symm

variable {air : Air} {link : Link η}

/-- A link that gets as far as to wait has a client and has heard what comes before the first
look. -/
theorem connectAmid_eq_waitAmong (h : air.isClear link.endpoint = true) :
    let begun := { link with hasClient := true, connected := link.isUpAt air 0 }
    let ended := begun.waitAmong (air.conduct none) 0 patience
    (link.connectAmid air).link = ended.link ∧ (link.connectAmid air).success = ended.success := by
  intro begun ended
  obtain ⟨hCreate, ⟨portNumber, hPort⟩, hConnect⟩ := Air.isClear_iff.mp h
  let opened : Link η := { link with hasClient := true }
  have hAttached := @attachAmong_of_no_fault η air none opened portNumber hPort hConnect
  have hBegun : (opened.meetAll ((air.signals 0).map .signal)).link = begun :=
    link_meetAll_signals opened _
  simp only [hBegun] at hAttached
  rw [connectAmid, connectAmong_of_no_fault hCreate, hAttached]
  exact ⟨rfl, rfl⟩

/-- A link that gets less far fails, although it may have got a client. -/
theorem connectAmid_of_not_isClear (h : air.isClear link.endpoint = false) :
    (link.connectAmid air).link =
        { link with hasClient := link.hasClient || air.createFault.isNone } ∧
      (link.connectAmid air).success = false := by
  cases hCreate : air.createFault with
  | some reason =>
    rw [connectAmid, connectAmong_of_createFault hCreate, Option.isNone_some, Bool.or_false]
    exact ⟨rfl, rfl⟩
  | none =>
    let opened : Link η := { link with hasClient := true }
    rw [connectAmid, connectAmong_of_no_fault hCreate, Option.isNone_none, Bool.or_true]
    cases hPort : link.endpoint.portNumber with
    | none =>
      rw [@attachAmong_of_no_port η air none opened hPort]
      exact ⟨rfl, rfl⟩
    | some portNumber =>
      cases hConnect : air.connectFault with
      | none => simp [Air.isClear, hCreate, hPort, hConnect] at h
      | some reason =>
        rw [@attachAmong_of_connectFault η air none opened portNumber reason hPort hConnect]
        exact ⟨rfl, rfl⟩

/-- A link that tries to connect gets a client, unless that fails to come about; else it changes no
more than in whether it is up. -/
theorem connectAmid_link (air : Air) (link : Link η) :
    ∃ connected, (link.connectAmid air).link =
      { link with hasClient := link.hasClient || air.createFault.isNone, connected } := by
  cases hClear : air.isClear link.endpoint with
  | false => exact ⟨link.connected, (connectAmid_of_not_isClear hClear).1⟩
  | true =>
    obtain ⟨connected, hWaited⟩ := waitAmong_link (air.conduct none) 0
      { link with hasClient := true, connected := link.isUpAt air 0 } patience
    refine ⟨connected, ((connectAmid_eq_waitAmong hClear).1.trans hWaited).trans ?_⟩
    rw [(Air.isClear_iff.mp hClear).1, Option.isNone_none, Bool.or_true]

theorem connect_link (broker : Broker) (link : Link η) :
    ∃ connected, (link.connect broker).link =
      { link with hasClient := link.hasClient || broker.createFault.isNone, connected } := by
  rw [connect_eq_connectAmid]
  exact connectAmid_link broker.air link

/-- What connecting comes to when the link gets as far as to wait. -/
theorem connectAmid_of_isClear (h : air.isClear link.endpoint = true) :
    let tried := link.connectAmid air
    (tried.success = true ↔ ∃ look < patience, link.isUpAt air look = true) ∧
      tried.link.connected = (tried.success || link.isUpAt air patience) := by
  have hSpec := waitAmong_spec air { link with hasClient := true } 0 patience
  simp only [Nat.zero_add] at hSpec
  obtain ⟨hLink, hSuccess⟩ := connectAmid_eq_waitAmong h
  simp only [hLink, hSuccess]
  exact hSpec

/-- A link that hears in the pause before a look that its client is accepted is up at that look, if
nothing disturbs it. -/
theorem isUpAt_of_mem (hPlain : air.IsPlain) {pause : Nat} {s : Signal}
    (hSignal : s ∈ air.signals pause) (hAccepts : s.isAcceptance = true) :
    link.isUpAt air pause = true := by
  obtain ⟨earlier, hHeard⟩ := air.heardBy_eq_append pause
  have hLasting := hPlain.lasting pause s hSignal hAccepts
  rw [isUpAt, hHeard, Signal.upAfter_append]
  unfold Signal.upAfter at hLasting ⊢
  cases hLast : (air.signals pause).getLast? with
  | none => simp [hLast] at hLasting
  | some last => simpa [hLast] using hLasting

/-- A link that was down is up at a look only if its client has been accepted by then. -/
theorem exists_accepted (hDown : link.connected = false) (hPlain : air.IsPlain) {look : Nat}
    (hUp : link.isUpAt air look = true) :
    ∃ pause ≤ look, .answer true Broker.accepted ∈ air.signals pause := by
  rw [isUpAt, hDown] at hUp
  obtain ⟨s, hHeard, hAccepts⟩ := Signal.exists_acceptance hUp
  obtain ⟨pause, hPause, hSignal⟩ := Air.mem_heardBy.mp hHeard
  refine ⟨pause, hPause, ?_⟩
  rw [← Signal.eq_answer_of_isAcceptance (hPlain.own pause s hSignal) hAccepts]
  exact hSignal

theorem isAccepted_iff (hDown : link.connected = false) (hPlain : air.IsPlain)
    (hClear : air.isClear link.endpoint = true) :
    link.IsAccepted air ↔ ∃ look < patience, link.isUpAt air look = true := by
  constructor
  · rintro ⟨-, pause, hPause, -, hSignal⟩
    have hInTime : pause ≠ patience := by
      rintro rfl
      cases hPlain.inTime _ hSignal
    exact ⟨pause, Nat.lt_of_le_of_ne hPause hInTime, isUpAt_of_mem hPlain hSignal rfl⟩
  · intro hLooks
    -- The client has been accepted by the first look at which the link is up.
    obtain ⟨hFirst, hUp⟩ := Nat.find_spec hLooks
    obtain ⟨pause, hPause, hSignal⟩ := exists_accepted hDown hPlain hUp
    refine ⟨hClear, pause, Nat.le_trans hPause (Nat.le_of_lt hFirst), ?_, hSignal⟩
    intro look hLook
    have hEarlier := Nat.lt_of_lt_of_le hLook hPause
    have hNot := Nat.find_min hLooks hEarlier
    simpa [Nat.lt_trans hEarlier hFirst] using hNot

/-- A link that is not accepted in the pause before a look is up at it only if it was before. -/
theorem isUpAt_of_succ {look : Nat} (hRefused : ∀ s ∈ air.signals (look + 1), s.isAcceptance = false)
    (hUp : link.isUpAt air (look + 1) = true) : link.isUpAt air look = true := by
  rw [isUpAt, air.heardBy_succ, Signal.upAfter_append] at hUp
  cases hSignals : (air.signals (look + 1)).getLast? with
  | none =>
    rw [List.getLast?_eq_none_iff.mp hSignals] at hUp
    exact hUp
  | some s =>
    have hLast := hRefused s (List.mem_of_getLast? hSignals)
    simp [Signal.upAfter, hSignals, hLast] at hUp

/-- When connecting tells the truth, whatever the link is like and whatever it hears meanwhile. It
succeeds exactly if the link gets as far as to wait and is up at one of its looks, whoever has
brought it up. Whether the link is up afterwards differs from that only if it has been up before and
does not get so far, or comes up in the last pause. So both say whether its client has been
accepted, if it has been down before and nothing disturbs it. -/
theorem connect_truthful (link : Link η) :
    (∀ broker : Broker, link.connect broker = link.connectAmid broker.air) ∧
    ∀ air : Air,
      let tried := link.connectAmid air
      (tried.success = true ↔
        air.isClear link.endpoint = true ∧ ∃ look < patience, link.isUpAt air look = true) ∧
      (tried.link.connected = tried.success ↔
        if air.isClear link.endpoint then tried.success = true ∨ link.isUpAt air patience = false
        else link.connected = false) ∧
      (link.connected = false → air.IsPlain →
        (tried.success = true ↔ link.IsAccepted air) ∧ tried.link.connected = tried.success) := by
  refine ⟨fun broker => connect_eq_connectAmid broker link, fun air => ?_⟩
  intro tried
  cases hClear : air.isClear link.endpoint with
  | false =>
    obtain ⟨hLink, hFailed⟩ := connectAmid_of_not_isClear hClear
    have hConnected : tried.link.connected = link.connected := by rw [hLink]
    have hNot : ¬ link.IsAccepted air := fun h => by simp [h.1] at hClear
    simp only [tried, hFailed, hConnected, hNot]
    exact ⟨by simp, by simp, fun hDown _ => ⟨by simp, hDown⟩⟩
  | true =>
    obtain ⟨hSuccess, hConnected⟩ := connectAmid_of_isClear hClear
    refine ⟨by simpa using hSuccess, ?_, fun hDown hPlain => ⟨?_, ?_⟩⟩
    · simp only [tried, hConnected]
      cases (link.connectAmid air).success <;> simp
    · rw [hSuccess, isAccepted_iff hDown hPlain hClear]
    · have hUp : link.isUpAt air patience = true → tried.success = true := fun hUp =>
        hSuccess.mpr ⟨50, by decide, isUpAt_of_succ hPlain.inTime hUp⟩
      rw [hConnected]
      cases hLast : link.isUpAt air patience with
      | false => exact Bool.or_false _
      | true => rw [hUp hLast, Bool.true_or]

/-- An endpoint as it is when nothing is said about it. -/
def usualEndpoint : Endpoint :=
  ⟨.text "localhost", some 1883, none, none, .text "datalogger-subscriber", .text "#", some 1,
    .text "tcp", .text "/mqtt", some false⟩

/-- A link that has been accepted late, after it gave up waiting, connects at once when it tries
again, although nobody answers; and it stays up if it cannot connect then. -/
theorem connects_unanswered :
    let silent : Broker := { Broker.welcoming with answer := none }
    let unreachable : Broker := { Broker.welcoming with connectFault := some "Connection refused" }
    let first : Attempt Unit := (new usualEndpoint 0).connect silent
    let late := (first.link.acknowledge Broker.accepted).link
    first.success = false ∧
      (late.connect silent).success = true ∧ ¬ late.IsAccepted silent.air ∧
      (late.connect unreachable).success = false ∧
      (late.connect unreachable).link.connected = true := by
  intro silent unreachable first late
  have hSilent : ∀ pause, silent.air.signals pause = [] := by
    intro pause
    simp [silent, Broker.air, Broker.answerAfter?]
  refine ⟨by decide +kernel, by decide +kernel, ?_, by decide +kernel, by decide +kernel⟩
  rintro ⟨-, pause, -, -, hSignal⟩
  rw [hSilent] at hSignal
  cases hSignal

end Link

end TelemetryLog
