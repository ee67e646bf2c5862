import Mathlib.Data.List.Basic
import TelemetryLog.Proofs.Session.History

/-! The calls by which a link is opened. Subscriptions apart, they are those that the endpoint asks
for, in a fixed order, as far as the first that fails: so a client has been given all that it needs
before it is asked to connect. -/

namespace TelemetryLog

/-- Where a list has two parts that differ, the one that is not in what comes before the other comes
after it. -/
theorem mem_of_append_cons_eq {α : Type} {first before later after : List α} {x y : α}
    (h : first ++ x :: later = before ++ y :: after) (hFirst : y ∉ first) (hOther : x ≠ y) :
    x ∈ before := by
  induction first generalizing before with
  | nil =>
    cases before with
    | nil => exact absurd (List.cons.inj h).1 hOther
    | cons z rest => exact (List.cons.inj h).1 ▸ List.mem_cons_self
  | cons z rest ih =>
    obtain ⟨hHead, hRest⟩ := not_or.mp (List.mem_cons.not.mp hFirst)
    cases before with
    | nil => exact absurd (List.cons.inj h).1.symm hHead
    | cons _ others => exact List.mem_cons_of_mem _ (ih (List.cons.inj h).2 hRest)

namespace Call

def isOpening (call : Call) : Bool := !call.isSubscription

end Call

namespace Conduct

/-- Some calls as far as the first that fails, that one included. -/
def upToFault (conduct : Conduct) : List Call → List Call
  | [] => []
  | call :: rest => call :: if (conduct.fault call).isSome then [] else conduct.upToFault rest

/-- Whether some calls can all be made. -/
def admits (conduct : Conduct) (calls : List Call) : Bool :=
  calls.all fun call => (conduct.fault call).isNone

/-- A client that has nothing to tell before it is asked to connect. -/
def TellsLate (conduct : Conduct) : Prop :=
  ∀ call, (∀ host portNumber keepAlive, call ≠ .connect host portNumber keepAlive) →
    call ≠ .startLoop → conduct.during call = []

variable {conduct : Conduct}

theorem upToFault_prefix (conduct : Conduct) (calls : List Call) :
    conduct.upToFault calls <+: calls := by
  induction calls with
  | nil => exact List.prefix_refl _
  | cons call rest ih =>
    rw [upToFault]
    split
    · exact List.cons_prefix_cons.mpr ⟨rfl, List.nil_prefix⟩
    · exact List.cons_prefix_cons.mpr ⟨rfl, ih⟩

theorem upToFault_of_admits {calls : List Call} (h : conduct.admits calls = true) :
    conduct.upToFault calls = calls := by
  induction calls with
  | nil => rfl
  | cons call rest ih =>
    rw [admits, List.all_cons, Bool.and_eq_true] at h
    rw [upToFault, ih h.2, if_neg (by simp [Option.isNone_iff_eq_none.mp h.1])]

end Conduct

theorem Broker.tellsLate_conduct (broker : Broker) : broker.conduct.TellsLate := by
  intro call hConnect hLoop
  cases call with
  | connect host portNumber keepAlive => exact absurd rfl (hConnect _ _ _)
  | _ => rfl

namespace Endpoint

/-- The calls by which a client of a name is opened: it comes about, is made ready, connects, and
its loop begins. Without a port it cannot connect. -/
def openingCalls (name : String) (e : Endpoint) : List Call :=
  .create name e.transport :: e.preparingCalls ++
    match e.portNumber with
    | some portNumber => [e.connectCall portNumber, .startLoop]
    | none => []

theorem isOpening_of_mem {name : String} {e : Endpoint} {call : Call}
    (h : call ∈ .create name e.transport :: e.preparingCalls) : call.isOpening = true := by
  rw [Call.isOpening, Call.isSubscription_of_prepares (prepares_of_mem h)]
  rfl

end Endpoint

namespace Link

variable {η : Type} {conduct : Conduct}

theorem filter_meet (link : Link η) (o : Occurrence) :
    (link.meet o).trace.calls.filter Call.isOpening = [] := by
  unfold meet
  split
  · unfold acknowledge
    split <;> rfl
  · rfl
  · rfl

theorem filter_meetAll (link : Link η) (occurrences : List Occurrence) :
    (link.meetAll occurrences).trace.calls.filter Call.isOpening = [] := by
  induction occurrences generalizing link with
  | nil => rfl
  | cons o rest ih =>
    simp only [meetAll, Course.andThen, Trace.calls_append, List.filter_append, filter_meet, ih,
      List.append_nil]

theorem filter_make {call : Call} (h : call.isOpening = true) (link : Link η) :
    (link.make conduct call).trace.calls.filter Call.isOpening = [call] := by
  simp only [make, Course.andThen, Course.leaving, Trace.calls_append, Trace.calls_ofCalls,
    List.filter_append, filter_meetAll, List.append_nil]
  rw [List.filter_cons_of_pos h]
  rfl

/-- Of the calls that are made, and of those that follow them, the subscriptions apart, as many are
made as come before one that fails, and that one. -/
theorem filter_making {failing : String → Entry} {next : Link η → Trial η} {calls later : List Call}
    (hCalls : ∀ call ∈ calls, call.isOpening = true) {e : Endpoint}
    (hNext : ∀ link : Link η, link.endpoint = e →
      (next link).trace.calls.filter Call.isOpening = conduct.upToFault later)
    {link : Link η} (hEndpoint : link.endpoint = e) :
    (link.making conduct failing next calls).trace.calls.filter Call.isOpening =
      conduct.upToFault (calls ++ later) := by
  induction calls generalizing link with
  | nil => exact hNext link hEndpoint
  | cons call rest ih =>
    obtain ⟨hCall, hRest⟩ := List.forall_mem_cons.mp hCalls
    rw [making, List.cons_append, Conduct.upToFault]
    simp only [Course.leadsTo, Course.andThen, Trace.calls_append, List.filter_append,
      filter_make hCall, List.singleton_append]
    cases hFault : conduct.fault call with
    | some reason => rfl
    | none =>
      have hMade : (link.make conduct call).link.endpoint = e :=
        (follows_make conduct (by simpa [Call.isOpening] using hCall) link).endpoint.trans hEndpoint
      exact congrArg (call :: ·) (ih hRest hMade)

theorem filter_waitAmong (pauses left : Nat) (link : Link η) :
    (link.waitAmong conduct pauses left).trace.calls.filter Call.isOpening = [] := by
  induction left generalizing pauses link with
  | zero => rfl
  | succ left ih =>
    rw [waitAmong]
    split
    · rfl
    · simp only [Course.leadsTo, Course.andThen, Trace.calls_append, List.filter_append,
        filter_meetAll, ih, List.append_nil]

theorem filter_attachAmong (link : Link η) :
    (link.attachAmong conduct).trace.calls.filter Call.isOpening =
      conduct.upToFault (match link.endpoint.portNumber with
        | some portNumber => [link.endpoint.connectCall portNumber, .startLoop]
        | none => []) := by
  unfold attachAmong
  cases hPort : link.endpoint.portNumber with
  | none => rfl
  | some portNumber =>
    have hMaking := @filter_making η conduct failureEntry
      (fun link => link.waitAmong conduct 0 patience)
      [link.endpoint.connectCall portNumber, .startLoop] []
      (by simp [Endpoint.connectCall, Call.isOpening, Call.isSubscription]) link.endpoint
      (fun link _ => filter_waitAmong 0 patience link) link rfl
    simpa [Course.leadsTo, Course.andThen, Course.leaving] using hMaking

/-- The calls that open a link are those that its endpoint asks for, as far as the first that
fails. -/
theorem filter_connectAmong (link : Link η) :
    (link.connectAmong conduct).trace.calls.filter Call.isOpening =
      conduct.upToFault (link.endpoint.openingCalls link.clientName) := by
  refine filter_making (fun call => Endpoint.isOpening_of_mem) (fun other hEndpoint => ?_) rfl
  rw [filter_attachAmong, hEndpoint]

/-- Calls that are followed by success have all been made. -/
theorem admits_of_success {failing : String → Entry} {next : Link η → Trial η} {calls : List Call}
    {link : Link η} (h : (link.making conduct failing next calls).success = true) :
    conduct.admits calls = true ∧
      ∃ other : Link η, other.endpoint = link.endpoint ∧ (next other).success = true := by
  induction calls generalizing link with
  | nil => exact ⟨rfl, link, rfl, h⟩
  | cons call rest ih =>
    cases hFault : conduct.fault call with
    | some reason => simp [making, hFault, Course.leadsTo] at h
    | none =>
      simp only [making, hFault, Course.leadsTo] at h
      obtain ⟨hAdmits, other, hEndpoint, hSuccess⟩ := ih h
      refine ⟨by simpa [Conduct.admits, hFault] using hAdmits, other, ?_, hSuccess⟩
      exact hEndpoint.trans (link.follows_meetAll _).endpoint

/-- A link that connects has made all the calls that its endpoint asks for. -/
theorem admits_of_connects {link : Link η} (h : (link.connectAmong conduct).success = true) :
    (∃ portNumber, link.endpoint.portNumber = some portNumber) ∧
      conduct.admits (link.endpoint.openingCalls link.clientName) = true := by
  obtain ⟨hPrepared, other, hEndpoint, hAttached⟩ := admits_of_success h
  have hSame : other.endpoint = link.endpoint := hEndpoint
  unfold attachAmong at hAttached
  rw [show ({ other with hasClient := true } : Link η).endpoint = link.endpoint from hSame]
    at hAttached
  cases hPort : link.endpoint.portNumber with
  | none => simp [hPort] at hAttached
  | some portNumber =>
    simp only [hPort] at hAttached
    obtain ⟨hAdmits, -⟩ := admits_of_success hAttached
    refine ⟨⟨portNumber, rfl⟩, ?_⟩
    rw [Endpoint.openingCalls, hPort, Conduct.admits, List.all_append, Bool.and_eq_true]
    exact ⟨hPrepared, hAdmits⟩

/-- A link that connects has begun the loop of its client. -/
theorem startLoop_mem_of_connects {link : Link η}
    (h : (link.connectAmong conduct).success = true) :
    .startLoop ∈ (link.connectAmong conduct).trace.calls := by
  obtain ⟨⟨portNumber, hPort⟩, hAdmits⟩ := admits_of_connects h
  have hCalls := @filter_connectAmong η conduct link
  rw [Conduct.upToFault_of_admits hAdmits] at hCalls
  refine List.mem_of_mem_filter (p := Call.isOpening) ?_
  rw [hCalls, Endpoint.openingCalls, hPort]
  simp

theorem calls_making_quiet {failing : String → Entry} {next : Link η → Trial η} {calls : List Call}
    (hQuiet : ∀ call ∈ calls, conduct.during call = []) (link : Link η) :
    (link.making conduct failing next calls).trace.calls =
      conduct.upToFault calls ++ if conduct.admits calls then (next link).trace.calls else [] := by
  induction calls with
  | nil => rfl
  | cons call rest ih =>
    obtain ⟨hCall, hRest⟩ := List.forall_mem_cons.mp hQuiet
    rw [making, make_quiet hCall, Conduct.upToFault]
    cases hFault : conduct.fault call with
    | some reason => simp [Course.leadsTo, Course.andThen, Course.leaving, Conduct.admits, hFault]
    | none =>
      simp [Course.leadsTo, Course.andThen, Course.leaving, Conduct.admits, hFault, ih hRest]

theorem calls_attachAmong (link : Link η) :
    (link.attachAmong conduct).trace.calls = [] ∨
      ∃ portNumber tail, link.endpoint.portNumber = some portNumber ∧
        (link.attachAmong conduct).trace.calls = link.endpoint.connectCall portNumber :: tail := by
  unfold attachAmong
  split
  · rename_i portNumber hPort
    exact .inr ⟨portNumber, _, hPort, rfl⟩
  · exact .inl rfl

/-- If nothing comes before the client is asked to connect, nothing is subscribed to before. -/
theorem connectCall_mem_of_subscribe (hLate : conduct.TellsLate) {link : Link η}
    {before after : List Call} {topic : GivenText} {qos : Option Int}
    (h : (link.connectAmong conduct).trace.calls = before ++ .subscribe topic qos :: after) :
    ∃ portNumber, link.endpoint.portNumber = some portNumber ∧
      link.endpoint.connectCall portNumber ∈ before := by
  have hQuiet : ∀ call ∈ link.createCall :: link.endpoint.preparingCalls,
      conduct.during call = [] := by
    intro call hCall
    refine hLate call ?_ ?_
    · rintro host portNumber keepAlive rfl
      cases Endpoint.prepares_of_mem hCall
    · rintro rfl
      cases Endpoint.prepares_of_mem hCall
  have hNone : .subscribe topic qos ∉
      conduct.upToFault (link.createCall :: link.endpoint.preparingCalls) := by
    intro hMember
    cases Endpoint.prepares_of_mem ((conduct.upToFault_prefix _).mem hMember)
  have hAttached := @calls_attachAmong η conduct { link with hasClient := true }
  rw [connectAmong, calls_making_quiet hQuiet] at h
  split at h
  · obtain hNothing | ⟨portNumber, tail, hPort, hCalls⟩ := hAttached
    · rw [hNothing, List.append_nil] at h
      exact absurd (h ▸ List.mem_append_right _ List.mem_cons_self) hNone
    · rw [hCalls] at h
      exact ⟨portNumber, hPort, mem_of_append_cons_eq h hNone (by simp [Endpoint.connectCall])⟩
  · rw [List.append_nil] at h
    exact absurd (h ▸ List.mem_append_right _ List.mem_cons_self) hNone

/-- The calls that close a link, as far as the first that fails. -/
theorem filter_disconnectAmong (link : Link η) :
    (link.disconnectAmong conduct).trace.calls.filter Call.isOpening =
      if link.hasClient then conduct.upToFault [.disconnect, .stopLoop] else [] := by
  unfold disconnectAmong
  split
  · have hMaking := @filter_making η conduct partingFailure
      (fun link => ⟨.leaving link .empty, true⟩) [.disconnect, .stopLoop] []
      (by simp [Call.isOpening, Call.isSubscription]) link.endpoint (fun _ _ => rfl) link rfl
    rw [List.append_nil] at hMaking
    simp [Course.andThen, takeDown, hMaking]
  · rfl

/-- A link that disconnects asks no client to connect. -/
theorem connect_not_mem_disconnectAmong (link : Link η) (host : GivenText) (portNumber : Int)
    (keepAlive : Nat) :
    .connect host portNumber keepAlive ∉
      (link.disconnectAmong conduct).trace.calls.filter Call.isOpening := by
  rw [filter_disconnectAmong]
  split
  · intro hMember
    simpa using (conduct.upToFault_prefix _).mem hMember
  · exact List.not_mem_nil

section Broker

variable (broker : Broker) (link : Link η)

theorem countP_hear (pauses : Nat) :
    (link.hear broker pauses).trace.calls.countP Call.isSubscription =
      if broker.delay = pauses ∧ broker.answer = some Broker.accepted then 1 else 0 := by
  unfold hear Broker.answerAfter?
  by_cases hDelay : broker.delay = pauses
  · cases hAnswer : broker.answer with
    | none => simp [hDelay]
    | some code =>
      by_cases hCode : code = Broker.accepted <;>
        simp [hDelay, hCode, acknowledge, Call.isSubscription]
  · simp [hDelay]

theorem countP_wait (pauses left : Nat) :
    (link.wait broker pauses left).trace.calls.countP Call.isSubscription ≤
      if pauses < broker.delay ∧ broker.answer = some Broker.accepted then 1 else 0 := by
  induction left generalizing pauses link with
  | zero => exact Nat.zero_le _
  | succ left ih =>
    rw [wait]
    split
    · exact Nat.zero_le _
    · have hRest := ih (link.hear broker (pauses + 1)).link (pauses + 1)
      rw [Trace.calls_append, List.countP_append, countP_hear]
      by_cases hAnswer : broker.answer = some Broker.accepted
      · simp only [hAnswer, and_true] at hRest ⊢
        split at hRest <;> split <;> split <;> omega
      · simpa [hAnswer] using hRest

theorem countP_attachToHost :
    (link.attachToHost broker).trace.calls.countP Call.isSubscription ≤
      if broker.answer = some Broker.accepted then 1 else 0 := by
  unfold attachToHost
  split
  · rename_i portNumber _
    have hConnect : [link.endpoint.connectCall portNumber].countP Call.isSubscription = 0 := rfl
    have hLoop : [Call.startLoop].countP Call.isSubscription = 0 := rfl
    unfold attach
    split
    · exact Nat.zero_le _
    · have hWait := countP_wait broker (link.hear broker 0).link 0 patience
      simp only [Trace.calls_append, Trace.calls_ofCalls, List.countP_append, countP_hear,
        hConnect, hLoop]
      by_cases hAnswer : broker.answer = some Broker.accepted
      · simp only [hAnswer, and_true, if_true] at hWait ⊢
        split at hWait <;> split <;> omega
      · simpa [hAnswer] using hWait
  · exact Nat.zero_le _

/-- A link subscribes to its topic once at most when it connects at a broker, and not at all unless
the broker accepts its client. -/
theorem countP_connect :
    (link.connect broker).trace.calls.countP Call.isSubscription ≤
      if broker.answer = some Broker.accepted then 1 else 0 := by
  have hPreparing : (link.createCall :: link.endpoint.preparingCalls).countP
      Call.isSubscription = 0 := by
    refine List.countP_eq_zero.mpr fun call hCall => ?_
    simp [Call.isSubscription_of_prepares (Endpoint.prepares_of_mem hCall)]
  unfold connect
  split
  · exact Nat.zero_le _
  · have hAttached := countP_attachToHost broker { link with hasClient := true }
    simp only [Trace.calls_append, Trace.calls_ofCalls, List.singleton_append, List.countP_append,
      hPreparing, Nat.zero_add]
    exact hAttached

end Broker

end Link

/-- Whenever a client is asked to connect in some calls, it is asked to connect to the configured
place, and it has been given since it came about what the endpoint asks for, and nothing else. -/
def Endpoint.Guards (e : Endpoint) (calls : List Call) : Prop :=
  ∀ before host portNumber keepAlive after,
    calls = before ++ .connect host portNumber keepAlive :: after →
      host = e.host ∧ some portNumber = e.portNumber ∧
        ∃ earlier name given, before = earlier ++ .create name e.transport :: given ∧
          ∀ call, call.isOpening = true → (call ∈ given ↔ e.Asks call)

namespace Endpoint.Guards

variable {e : Endpoint} {calls later : List Call}

theorem of_no_connection (h : ∀ host portNumber keepAlive,
      .connect host portNumber keepAlive ∉ calls.filter Call.isOpening) :
    e.Guards calls := by
  rintro before host portNumber keepAlive after rfl
  exact absurd (List.mem_filter.mpr ⟨by simp, rfl⟩) (h host portNumber keepAlive)

theorem append (h : e.Guards calls) (hLater : e.Guards later) : e.Guards (calls ++ later) := by
  intro before host portNumber keepAlive after hCalls
  obtain ⟨between, hBefore, hRest⟩ | ⟨between, hFirst, hRest⟩ := List.append_eq_append_iff.mp hCalls
  · obtain ⟨hHost, hPort, earlier, name, given, hGiven, hAsked⟩ := hLater _ _ _ _ _ hRest
    refine ⟨hHost, hPort, calls ++ earlier, name, given, ?_, hAsked⟩
    rw [hBefore, hGiven, List.append_assoc]
  · obtain ⟨rfl, hNone⟩ | ⟨rest, rfl, -⟩ := List.cons_eq_append_iff.mp hRest
    · obtain ⟨-, -, earlier, name, given, hGiven, -⟩ := hLater [] _ _ _ _ hNone
      simp at hGiven
    · exact h _ _ _ _ _ hFirst

theorem of_opening {conduct : Conduct} {name : String}
    (h : calls.filter Call.isOpening = conduct.upToFault (e.openingCalls name)) :
    e.Guards calls := by
  rintro before host portNumber keepAlive after rfl
  obtain ⟨rest, hRest⟩ := h ▸ conduct.upToFault_prefix (e.openingCalls name)
  have hConnect : (Call.connect host portNumber keepAlive).isOpening = true := rfl
  have hNone : .connect host portNumber keepAlive ∉
      .create name e.transport :: e.preparingCalls := by
    intro hMember
    cases prepares_of_mem hMember
  rw [List.filter_append, List.filter_cons_of_pos hConnect, List.append_assoc,
    openingCalls] at hRest
  cases hPort : e.portNumber with
  | none =>
    rw [hPort, List.append_nil] at hRest
    refine absurd ?_ hNone
    rw [← hRest]
    simp
  | some configured =>
    rw [hPort] at hRest
    obtain ⟨hBefore, hCall, -⟩ := (List.append_cons_inj_of_notMem hNone (by simp)).mp hRest.symm
    cases hCall
    obtain ⟨earlier, given, rfl, -, -, hGiven⟩ := List.filter_eq_cons_iff.mp hBefore.symm
    refine ⟨rfl, rfl, earlier, name, given, rfl, fun call hOpening => ?_⟩
    rw [← mem_preparingCalls, ← hGiven, List.mem_filter, and_iff_left hOpening]

end Endpoint.Guards

end TelemetryLog
