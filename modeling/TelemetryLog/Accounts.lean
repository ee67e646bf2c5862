import TelemetryLog.Number.Layout
import TelemetryLog.Outcome

/-! Accounts of the messages: how many were received, and what became of them. -/

namespace TelemetryLog

open Text

/-- Counts of messages since the accounts were opened. They count up from zero, or from whatever
integers they are opened with. -/
structure Accounts where
  received : Int
  processed : Int
  failed : Int
  dataRecords : Int
  metadataRecords : Int
  unclassified : Int
  decodeErrors : Int
  writeErrors : Int
  deriving DecidableEq, Repr, Inhabited

namespace Accounts

def zero : Accounts := ⟨0, 0, 0, 0, 0, 0, 0, 0⟩

def receive (a : Accounts) : Accounts := { a with received := a.received + 1 }

def fail (a : Accounts) : Accounts := { a with failed := a.failed + 1 }

def record (a : Accounts) : Outcome → Accounts
  | .dataHandled _ _ _ _ none =>
    { a with dataRecords := a.dataRecords + 1, processed := a.processed + 1 }
  | .dataHandled _ _ _ _ (some _) =>
    { a with
      dataRecords := a.dataRecords + 1
      writeErrors := a.writeErrors + 1
      failed := a.failed + 1 }
  | .metadataHandled _ _ _ =>
    { a with metadataRecords := a.metadataRecords + 1, processed := a.processed + 1 }
  | .unclassified _ _ =>
    { a with unclassified := a.unclassified + 1, processed := a.processed + 1 }
  | .decodeFailed _ _ _ =>
    { a with decodeErrors := a.decodeErrors + 1, failed := a.failed + 1 }

/-- The part of the messages that were processed; of no messages all count as processed. Counts that
no messages can have may give a number that is beyond all finite ones. -/
def successRate (a : Accounts) : Binary64 :=
  let total := a.processed + a.failed
  if total = 0 then .ofInt 1
  else .ofQuotient (decide (a.processed < 0) != decide (total < 0)) a.processed.natAbs total.natAbs

def overflowMessage : String := "integer division result too large for a float"

def text (a : Accounts) : String :=
  let count (name : String) (n : Int) : String :=
    " " ++ name ++ "=" ++ String.ofList (integerText n)
  "Stats:" ++ count "received" a.received ++ count "processed" a.processed ++
    count "failed" a.failed ++ count "data" a.dataRecords ++
    count "metadata" a.metadataRecords ++ count "unclassified" a.unclassified

end Accounts

end TelemetryLog
