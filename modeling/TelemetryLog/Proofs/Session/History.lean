import TelemetryLog.Proofs.Session.Conduct

/-! A link follows what happens to it. Whether it is up, what it subscribes to and which messages it
hands on can all be read off its history, in which what comes while it connects or disconnects has
its place among the rest. `Follows` says so of any course, and courses that follow one another make
one that does. -/

namespace TelemetryLog

def Call.isSubscription : Call → Bool
  | .subscribe _ _ => true
  | _ => false

theorem Call.isSubscription_of_prepares {call : Call} (h : call.prepares = true) :
    call.isSubscription = false := by
  cases call with
  | subscribe => cases h
  | _ => rfl

def Endpoint.subscription (e : Endpoint) : Call := .subscribe e.topic e.qos

namespace Happening

variable {η : Type}

/-- Whether a link is up because of a happening, if it has to do with that. -/
def up? : Happening η → Option Bool
  | .came (.signal s) => some s.isAcceptance
  | .takenDown => some false
  | _ => none

def isAcceptance : Happening η → Bool
  | .came (.signal s) => s.isAcceptance
  | _ => false

/-- The handler that a link has because of a happening, if it has to do with that. -/
def handler? : Happening η → Option (Option η)
  | .handled handler => some handler
  | _ => none

/-- What is said last in a history, or else what was the case before. -/
def lastSaid {α : Type} (said? : Happening η → Option α) (before : α)
    (history : List (Happening η)) : α :=
  (history.reverse.findSome? said?).getD before

/-- The messages that come while there is a handler, each with the handler. -/
def deliveries (handler : Option η) : List (Happening η) → List (η × Message)
  | [] => []
  | .handled handler :: rest => deliveries handler rest
  | .came (.message m) :: rest => (handler.map (·, m)).toList ++ deliveries handler rest
  | _ :: rest => deliveries handler rest

theorem lastSaid_append {α : Type} (said? : Happening η → Option α) (before : α)
    (history later : List (Happening η)) :
    lastSaid said? before (history ++ later) =
      lastSaid said? (lastSaid said? before history) later := by
  simp only [lastSaid, List.reverse_append, List.findSome?_append]
  cases later.reverse.findSome? said? <;> rfl

theorem deliveries_append (handler : Option η) (history later : List (Happening η)) :
    deliveries handler (history ++ later) =
      deliveries handler history ++ deliveries (lastSaid handler? handler history) later := by
  induction history generalizing handler with
  | nil => rfl
  | cons h rest ih =>
    have hLast : lastSaid handler? handler (h :: rest) =
        lastSaid handler? (lastSaid handler? handler [h]) rest := lastSaid_append _ _ [h] rest
    rw [hLast, List.cons_append]
    cases h with
    | handled handler => exact ih handler
    | takenDown => exact ih handler
    | came o =>
      cases o with
      | signal s => exact ih handler
      | message m =>
        rw [deliveries, ih handler, ← List.append_assoc]
        rfl

end Happening

/-- What a course from a link says of the link, its calls and the messages that it hands on follows
from the history. -/
structure Follows {η : Type} (start : Link η) (course : Course η) : Prop where
  endpoint : course.link.endpoint = start.endpoint
  connected : course.link.connected =
    Happening.lastSaid Happening.up? start.connected course.history
  handler : course.link.handler =
    Happening.lastSaid Happening.handler? start.handler course.history
  subscriptions : course.trace.calls.filter Call.isSubscription =
    List.replicate (course.history.countP Happening.isAcceptance) start.endpoint.subscription
  delivered : course.delivered = Happening.deliveries start.handler course.history

namespace Follows

variable {η : Type} {start : Link η}

theorem leaving {link : Link η} {trace : Trace} (hEndpoint : link.endpoint = start.endpoint)
    (hConnected : link.connected = start.connected) (hHandler : link.handler = start.handler)
    (hCalls : trace.calls.filter Call.isSubscription = []) :
    Follows start (.leaving link trace) :=
  ⟨hEndpoint, hConnected, hHandler, hCalls, rfl⟩

/-- A course that follows what has happened may be gone on with. -/
theorem andThen {first later : Course η} (hFirst : Follows start first)
    (hLater : Follows first.link later) : Follows start (first.andThen later) where
  endpoint := hLater.endpoint.trans hFirst.endpoint
  connected := by
    rw [Course.andThen, Happening.lastSaid_append, ← hFirst.connected]
    exact hLater.connected
  handler := by
    rw [Course.andThen, Happening.lastSaid_append, ← hFirst.handler]
    exact hLater.handler
  subscriptions := by
    simp only [Course.andThen, Trace.calls_append, List.filter_append, List.countP_append,
      hFirst.subscriptions, hLater.subscriptions, hFirst.endpoint, List.replicate_append_replicate]
  delivered := by
    rw [Course.andThen, Happening.deliveries_append, ← hFirst.handler]
    exact congrArg₂ (· ++ ·) hFirst.delivered hLater.delivered

theorem leadsTo {first : Course η} {trial : Trial η} (hFirst : Follows start first)
    (hTrial : Follows first.link trial.toCourse) :
    Follows start (first.leadsTo trial).toCourse := hFirst.andThen hTrial

/-- A link that differs only in whether it has a client follows the same. -/
theorem of_hasClient {course : Course η} (hasClient : Bool)
    (h : Follows { start with hasClient } course) : Follows start course :=
  ⟨h.endpoint, h.connected, h.handler, h.subscriptions, h.delivered⟩

end Follows

namespace Link

variable {η : Type}

theorem follows_still (link : Link η) {trace : Trace}
    (h : trace.calls.filter Call.isSubscription = []) : Follows link (.leaving link trace) :=
  .leaving rfl rfl rfl h

theorem follows_meet (link : Link η) (o : Occurrence) : Follows link (link.meet o) := by
  cases o with
  | message m => exact ⟨rfl, rfl, rfl, rfl, (List.append_nil _).symm⟩
  | signal s =>
    cases s with
    | loss own code => exact ⟨rfl, rfl, rfl, rfl, rfl⟩
    | answer own code =>
      by_cases hCode : code = Broker.accepted
      · rw [meet, acknowledge, if_pos hCode]
        constructor <;>
          simp [Happening.lastSaid, Happening.up?, Happening.handler?, Happening.isAcceptance,
            Happening.deliveries, Signal.isAcceptance, hCode, Call.isSubscription,
            Endpoint.subscription]
      · rw [meet, acknowledge, if_neg hCode]
        constructor <;>
          simp [Happening.lastSaid, Happening.up?, Happening.handler?, Happening.isAcceptance,
            Happening.deliveries, Signal.isAcceptance, hCode]

theorem follows_meetAll (link : Link η) (occurrences : List Occurrence) :
    Follows link (link.meetAll occurrences) := by
  induction occurrences generalizing link with
  | nil => exact link.follows_still rfl
  | cons o rest ih => exact (link.follows_meet o).andThen (ih _)

section Conduct

variable (conduct : Conduct)

theorem follows_make {call : Call} (h : call.isSubscription = false) (link : Link η) :
    Follows link (link.make conduct call) :=
  (link.follows_still (by simp [h])).andThen (link.follows_meetAll _)

theorem follows_making (failing : String → Entry) {next : Link η → Trial η}
    (hNext : ∀ link, Follows link (next link).toCourse) {calls : List Call}
    (hCalls : ∀ call ∈ calls, call.isSubscription = false) (link : Link η) :
    Follows link (link.making conduct failing next calls).toCourse := by
  induction calls generalizing link with
  | nil => exact hNext link
  | cons call rest ih =>
    obtain ⟨hCall, hRest⟩ := List.forall_mem_cons.mp hCalls
    refine (link.follows_make conduct hCall).leadsTo ?_
    split
    · exact follows_still _ rfl
    · exact ih hRest _

theorem follows_waitAmong (pauses left : Nat) (link : Link η) :
    Follows link (link.waitAmong conduct pauses left).toCourse := by
  induction left generalizing pauses link with
  | zero => exact link.follows_still rfl
  | succ left ih =>
    rw [waitAmong]
    split
    · exact link.follows_still rfl
    · exact (link.follows_meetAll _).leadsTo (ih _ _)

theorem follows_attachAmong (link : Link η) :
    Follows link (link.attachAmong conduct).toCourse := by
  unfold attachAmong
  split
  · refine (link.follows_still rfl).leadsTo ?_
    exact follows_making conduct _ (follows_waitAmong conduct 0 patience)
      (by simp [Endpoint.connectCall, Call.isSubscription]) _
  · exact link.follows_still rfl

theorem follows_connectAmong (link : Link η) :
    Follows link (link.connectAmong conduct).toCourse := by
  refine follows_making conduct _ (fun link => ?_) (fun call hCall => ?_) link
  · exact .of_hasClient true (follows_attachAmong conduct _)
  · exact Call.isSubscription_of_prepares (Endpoint.prepares_of_mem hCall)

end Conduct

/-- What can be done with a link, and what comes to it between. The clients may conduct themselves
in another way each time. -/
inductive Move (η : Type) where
  | handle (handler : Option η)
  | connect (conduct : Conduct)
  | disconnect (conduct : Conduct)
  | meet (o : Occurrence)

def act (link : Link η) : Move η → Course η
  | .handle handler => ⟨⟨link.handledBy handler, .empty⟩, [], [.handled handler]⟩
  | .connect conduct => (link.connectAmong conduct).toCourse
  | .disconnect conduct => link.disconnectAmong conduct
  | .meet o => link.meet o

def follow (link : Link η) : List (Move η) → Course η
  | [] => .leaving link .empty
  | move :: rest => (link.act move).andThen ((link.act move).link.follow rest)

end Link

end TelemetryLog
