import TelemetryLog.Journal.Threshold
import TelemetryLog.Outcome

/-! The report of an outcome in the journal: a block of lines with all that is needed to find out
what was wrong with a message. A line for which there are no words ends the report, unless it would
not have been let through anyway. -/

namespace TelemetryLog

open Text

inductive ReportFault where
  /-- The source of the record is of no kind, but of a label that came instead of one. -/
  | noKind (label : Scalar)
  | tooDeep
  deriving DecidableEq, Repr

def ReportFault.message : ReportFault → String
  | .noKind label => "'" ++ label.sortName ++ "' object has no attribute 'value'"
  | .tooDeep => deepValueMessage

/-- A line of a report: its level and its words, if there are words for it. -/
structure ReportLine where
  level : Level
  words : Except ReportFault String
  deriving Repr

/-- Whether a value is nested too deep for a line of a report. -/
def Value.isUnreportable [Host] (value : Value) : Bool := value.isTooDeep Host.reportDepth

def Entry.asLine (entry : Entry) : ReportLine := ⟨entry.level, .ok entry.message⟩

namespace Report

def opening : ReportLine := (Entry.info "--- NEW RECORD PARSED ---").asLine

def parsed (sort : String) : ReportLine :=
  (Entry.info ("+ JSON " ++ sort ++ " Parsed Successfully:")).asLine

def source (identity : Identity) : ReportLine :=
  match identity.kind with
  | .unsupported label => ⟨.info, .error (.noKind label)⟩
  | _ => (Entry.info ("+ Topic Data: " ++ identity.text)).asLine

def valueLine (name : String) (value : Binary64) : ReportLine :=
  (Entry.info ("  > " ++ name ++ ": " ++ value.text)).asLine

def definitionLine [Host] (name : Scalar) (first : Value) : ReportLine :=
  if first.isUnreportable then ⟨.info, .error .tooDeep⟩
  else
    (Entry.info ("  > Field: " ++ String.ofList name.plain ++ " (Type: " ++
      String.ofList first.plain ++ ")")).asLine

/-- The line that says whether a row was written. An empty error counts as none. -/
def written (tablePath writeError : Option String) : ReportLine :=
  match writeError.filter (· ≠ "") with
  | some error => (Entry.error ("+ " ++ error)).asLine
  | none =>
    (Entry.info ("+ Data successfully written to '" ++ tablePath.getD "None" ++ "'")).asLine

def ofRow (names : List String) (row : Row) : List ReportLine :=
  [(Entry.info ("  > RecordNo: " ++ String.ofList (integerText row.recordNumber))).asLine,
    (Entry.info ("  > Timestamp: " ++ String.ofList row.time.wall.logChars)).asLine] ++
    (row.named names).map fun (name, value) => valueLine name value

def ofOutcome [Host] : Outcome → List ReportLine
  | .dataHandled identity names row tablePath writeError =>
    [opening, source identity, parsed "Data"] ++ ofRow names row ++ [written tablePath writeError]
  | .metadataHandled identity definitions _ =>
    [opening, source identity, parsed "Metadata"] ++
      definitions.map fun (name, first) => definitionLine name first
  | .decodeFailed identity cause rawPayload =>
    [opening, source identity, (Entry.error ("+ " ++ cause)).asLine,
      (Entry.error ("+ Raw Payload: " ++ rawPayload)).asLine]
  | .unclassified topic rawPayload =>
    [(Entry.warning "--- Unknown Message Received ---").asLine,
      (Entry.warning ("+ Topic:   " ++ String.ofList topic.plain)).asLine,
      (Entry.warning ("+ Payload: " ++ rawPayload)).asLine]

def ofOther (value : Value) : List ReportLine :=
  [(Entry.warning ("[REPORT] Unexpected outcome type: " ++ String.ofList value.literal)).asLine]

/-- The entries of a report, up to the first line without words that would have been let through,
and why there are none for that line. -/
def told (threshold : Threshold) : List ReportLine → List Entry × Option ReportFault
  | [] => ([], none)
  | line :: rest =>
    match line.words with
    | .ok words =>
      let (entries, fault) := told threshold rest
      (⟨line.level, words⟩ :: entries, fault)
    | .error fault =>
      if threshold.weight ≤ line.level.weight then ([], some fault) else told threshold rest

end Report

end TelemetryLog
