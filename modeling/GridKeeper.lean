import GridKeeper.Activity
import GridKeeper.Client
import GridKeeper.Client.Fault
import GridKeeper.Client.Replay
import GridKeeper.CommandLine.Ask
import GridKeeper.CommandLine.Options
import GridKeeper.CommandLine.Serve
import GridKeeper.Directory
import GridKeeper.Double
import GridKeeper.Double.Decimal
import GridKeeper.Exchange
import GridKeeper.Fault
import GridKeeper.Files
import GridKeeper.Job
import GridKeeper.Job.Condition
import GridKeeper.Job.Filter
import GridKeeper.Job.Format
import GridKeeper.Job.Formula
import GridKeeper.Job.Pattern
import GridKeeper.Job.Program
import GridKeeper.Job.Program.Basic
import GridKeeper.Job.Program.Filing
import GridKeeper.Job.Program.Filtering
import GridKeeper.Job.Script
import GridKeeper.Job.Script.Reader
import GridKeeper.Job.Shell
import GridKeeper.Job.Shell.Builtin
import GridKeeper.Job.Shell.Ending
import GridKeeper.Job.Shell.Field
import GridKeeper.Job.Shell.Run
import GridKeeper.Job.Shell.Session
import GridKeeper.Job.Shell.Value
import GridKeeper.Job.Signal
import GridKeeper.Json
import GridKeeper.Ledger
import GridKeeper.Lock.Acquisition
import GridKeeper.Lock.Backend
import GridKeeper.Lock.Failure
import GridKeeper.Lock.Store
import GridKeeper.Lock.Token
import GridKeeper.Main
import GridKeeper.Node
import GridKeeper.Node.Key
import GridKeeper.Node.KeyText
import GridKeeper.Proofs.AddressKeys
import GridKeeper.Proofs.Addresses
import GridKeeper.Proofs.Admissions
import GridKeeper.Proofs.Answers
import GridKeeper.Proofs.BareSigns
import GridKeeper.Proofs.BrokenOff
import GridKeeper.Proofs.Calls
import GridKeeper.Proofs.CanonicalAddresses
import GridKeeper.Proofs.Chunks
import GridKeeper.Proofs.CleanupSafety
import GridKeeper.Proofs.CounterHistory
import GridKeeper.Proofs.Custody
import GridKeeper.Proofs.CutReplies
import GridKeeper.Proofs.DirectoryEdits
import GridKeeper.Proofs.DirectoryHistory
import GridKeeper.Proofs.Framing
import GridKeeper.Proofs.Grammar
import GridKeeper.Proofs.Hosts
import GridKeeper.Proofs.Interleaving
import GridKeeper.Proofs.JoinedLists
import GridKeeper.Proofs.KeyTexts
import GridKeeper.Proofs.LaunchSafety
import GridKeeper.Proofs.Launching
import GridKeeper.Proofs.LedgerOrder
import GridKeeper.Proofs.Lines
import GridKeeper.Proofs.LockDiscipline
import GridKeeper.Proofs.NodeCalls
import GridKeeper.Proofs.Numerals
import GridKeeper.Proofs.OpenedFiles
import GridKeeper.Proofs.Pace
import GridKeeper.Proofs.Pipelining
import GridKeeper.Proofs.Ports
import GridKeeper.Proofs.PrintedKeys
import GridKeeper.Proofs.Provenance
import GridKeeper.Proofs.Refusals
import GridKeeper.Proofs.ReplyCodec
import GridKeeper.Proofs.Runs
import GridKeeper.Proofs.Serial
import GridKeeper.Proofs.SessionGuard
import GridKeeper.Proofs.StartUp
import GridKeeper.Proofs.Stopping
import GridKeeper.Proofs.Switching
import GridKeeper.Proofs.TextLines
import GridKeeper.Proofs.Texts
import GridKeeper.Proofs.Timetable
import GridKeeper.Proofs.Utf8
import GridKeeper.Proofs.Waiting
import GridKeeper.Proofs.Walks
import GridKeeper.Proofs.WholeSweeps
import GridKeeper.Registry
import GridKeeper.Server
import GridKeeper.Server.Admission
import GridKeeper.Service
import GridKeeper.Settings
import GridKeeper.Settings.Conversion
import GridKeeper.Settings.Environment
import GridKeeper.Settings.Fault
import GridKeeper.Settings.Fields
import GridKeeper.Settings.Load
import GridKeeper.Settings.Place
import GridKeeper.Settings.Stored
import GridKeeper.Settings.Validation
import GridKeeper.Settings.Value
import GridKeeper.Sweep
import GridKeeper.Sweep.Timeline
import GridKeeper.Text.Blank
import GridKeeper.Text.Case
import GridKeeper.Text.CaseRuns
import GridKeeper.Text.CombiningClass
import GridKeeper.Text.Composition
import GridKeeper.Text.Cut
import GridKeeper.Text.Lowercase
import GridKeeper.Text.LowercaseData
import GridKeeper.Text.Mark
import GridKeeper.Text.Normal
import GridKeeper.Text.Numeral
import GridKeeper.Text.Quoted
import GridKeeper.Text.Ranges
import GridKeeper.Text.Scan
import GridKeeper.Text.Unassigned
import GridKeeper.Text.Utf8
import GridKeeper.Text.Visible
import GridKeeper.Toml.Document
import GridKeeper.Toml.Draft
import GridKeeper.Toml.Expression
import GridKeeper.Toml.Moment
import GridKeeper.Toml.Number
import GridKeeper.Toml.Quoted
import GridKeeper.Toml.Tagged
import GridKeeper.Toml.Value
import GridKeeper.Url
import GridKeeper.Url.Direction
import GridKeeper.Url.Domain
import GridKeeper.Url.Host
import GridKeeper.Url.Ipv4
import GridKeeper.Url.Ipv6
import GridKeeper.Url.Joiner
import GridKeeper.Url.Percent
import GridKeeper.Url.Punycode
import GridKeeper.Url.Repertoire
import GridKeeper.Wire.Command
import GridKeeper.Wire.Expecting
import GridKeeper.Wire.Fault
import GridKeeper.Wire.Feed
import GridKeeper.Wire.Message
import GridKeeper.Wire.Reader
import GridKeeper.Wire.Reply
import GridKeeper.Wire.Request
