/-! How a broker meets a session. A client may fail to come about, to connect or to disconnect; when
it connects, the broker answers with a code, at once, after some pauses, or never. -/

namespace TelemetryLog

/-- What a session meets at a broker: the reasons for which its acts fail, if they do, the code with
which the broker answers, if it does, and the number of pauses before the answer. -/
structure Broker where
  createFault : Option String
  connectFault : Option String
  answer : Option Int
  delay : Nat
  disconnectFault : Option String
  deriving DecidableEq, Repr

namespace Broker

def accepted : Int := 0

def welcoming : Broker := ⟨none, none, some accepted, 0, none⟩

/-- The answer that comes after so many pauses. -/
def answerAfter? (broker : Broker) (pauses : Nat) : Option Int :=
  if broker.delay = pauses then broker.answer else none

end Broker

end TelemetryLog
