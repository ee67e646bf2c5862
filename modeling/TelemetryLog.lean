import TelemetryLog.Accounts
import TelemetryLog.CommandLine
import TelemetryLog.Counter
import TelemetryLog.Dispatch
import TelemetryLog.Host
import TelemetryLog.Intake
import TelemetryLog.Journal
import TelemetryLog.Journal.Threshold
import TelemetryLog.Json.Reader
import TelemetryLog.Main
import TelemetryLog.Number.Binary64
import TelemetryLog.Number.Decimal
import TelemetryLog.Number.Layout
import TelemetryLog.Number.Power
import TelemetryLog.Number.Shortest
import TelemetryLog.Outcome
import TelemetryLog.Payload
import TelemetryLog.Proofs.Dispatch
import TelemetryLog.Proofs.Storage.File
import TelemetryLog.Proofs.Storage.Follow
import TelemetryLog.Proofs.Storage.Furnish
import TelemetryLog.Proofs.Storage.Directories
import TelemetryLog.Proofs.Storage.Put
import TelemetryLog.Proofs.Table.Append
import TelemetryLog.Proofs.Table.Atomic
import TelemetryLog.Receiver
import TelemetryLog.Record.Batch
import TelemetryLog.Record.Conversion
import TelemetryLog.Record.Decoding
import TelemetryLog.Record.Key
import TelemetryLog.Record.Metadata
import TelemetryLog.Record.Violation
import TelemetryLog.Report
import TelemetryLog.Run
import TelemetryLog.Service
import TelemetryLog.Session.Broker
import TelemetryLog.Session.Link
import TelemetryLog.Session.Trace
import TelemetryLog.Settings
import TelemetryLog.Settings.EnvFile
import TelemetryLog.Settings.Environment
import TelemetryLog.Settings.GivenText
import TelemetryLog.Storage.Node
import TelemetryLog.Storage.Path
import TelemetryLog.Storage.Tree
import TelemetryLog.Table.Log
import TelemetryLog.Table.Row
import TelemetryLog.Text.Blank
import TelemetryLog.Text.CaseContext
import TelemetryLog.Text.CaseTable
import TelemetryLog.Text.Casing
import TelemetryLog.Text.Digit
import TelemetryLog.Text.Numeral
import TelemetryLog.Text.Printable
import TelemetryLog.Text.Quoted
import TelemetryLog.Text.Range
import TelemetryLog.Text.Split
import TelemetryLog.Text.Utf8
import TelemetryLog.Time.Calendar
import TelemetryLog.Time.Local
import TelemetryLog.Time.Reading
import TelemetryLog.Time.Stamp
import TelemetryLog.Time.Zone
import TelemetryLog.Topic
import TelemetryLog.Value
import TelemetryLog.Proofs.Intake.Desk
import TelemetryLog.Proofs.Intake.LogFile
import TelemetryLog.Proofs.Intake.Numbering
import TelemetryLog.Proofs.Intake.Balance
import TelemetryLog.Proofs.Receiver.Pipelines
import TelemetryLog.Proofs.Service.Numbering
import TelemetryLog.Proofs.Json.Range
import TelemetryLog.Proofs.Record.Checked
import TelemetryLog.Proofs.Record.Grammar
import TelemetryLog.Proofs.Record.Untold
import TelemetryLog.Proofs.Record.Reading
import TelemetryLog.Proofs.Dispatch.Answer
import TelemetryLog.Proofs.Record.Spelling
import TelemetryLog.Proofs.Storage.Outline
import TelemetryLog.Proofs.Dispatch.Shift
import TelemetryLog.Proofs.Intake.Independence
import TelemetryLog.Proofs.Session.Link
import TelemetryLog.Proofs.Receiver.Station
import TelemetryLog.Proofs.Receiver.Running
import TelemetryLog.Proofs.Receiver.Loops
import TelemetryLog.Proofs.Intake.NewLog
import TelemetryLog.Proofs.Json.Written
import TelemetryLog.Proofs.Record.Duplicates
import TelemetryLog.Proofs.Session.Waiting
import TelemetryLog.Proofs.Receiver.Feeding
import TelemetryLog.Proofs.CommandLine
import TelemetryLog.Proofs.CommandLine.Values
import TelemetryLog.Proofs.Run
import TelemetryLog.Proofs.Service.Requests
import TelemetryLog.Proofs.Receiver.Health
import TelemetryLog.Proofs.Intake.Muted
import TelemetryLog.Proofs.Run.Level
import TelemetryLog.Proofs.Settings.Precedence
import TelemetryLog.Proofs.Text.Split
import TelemetryLog.Proofs.Topic
import TelemetryLog.Proofs.Time.Calendar
import TelemetryLog.Proofs.Time.Local
import TelemetryLog.Proofs.Dispatch.LocalTime
import TelemetryLog.Proofs.Json.Values
import TelemetryLog.Proofs.Dispatch.Metadata
import TelemetryLog.Proofs.Record.Content
import TelemetryLog.Proofs.Record.Reasons
import TelemetryLog.Proofs.Record.Violations
import TelemetryLog.Proofs.Record.Account
import TelemetryLog.Proofs.Text.Utf8
import TelemetryLog.Proofs.Payload
import TelemetryLog.Proofs.Text.Digit
import TelemetryLog.Proofs.Table.Letters
import TelemetryLog.Proofs.Table.Batch
import TelemetryLog.Proofs.Time.Text
import TelemetryLog.Proofs.Table.Line
import TelemetryLog.Proofs.Intake.Truncation
import TelemetryLog.Proofs.Report.Block
import TelemetryLog.Proofs.Intake.Diagnosis
import TelemetryLog.Proofs.Session.Conduct
import TelemetryLog.Proofs.Session.History
import TelemetryLog.Proofs.Session.Opening
import TelemetryLog.Proofs.Receiver.Opening
import TelemetryLog.Proofs.Settings.Rereading
import TelemetryLog.Proofs.Record.Key
