import PullDiagnostics.Bytes
import PullDiagnostics.Cache
import PullDiagnostics.Checker.Basic
import PullDiagnostics.Checker.Failure
import PullDiagnostics.Checker.FileList
import PullDiagnostics.Checker.Run
import PullDiagnostics.CommandLine
import PullDiagnostics.Decimal.Nearest
import PullDiagnostics.Decimal.Rounded
import PullDiagnostics.Decimal.Shortest
import PullDiagnostics.Diagnostic
import PullDiagnostics.Digest
import PullDiagnostics.DocumentMap
import PullDiagnostics.DocumentUri
import PullDiagnostics.Engine
import PullDiagnostics.FilePath
import PullDiagnostics.FileTree.Basic
import PullDiagnostics.FileTree.Walk
import PullDiagnostics.Finding
import PullDiagnostics.Fingerprint
import PullDiagnostics.Glob.Basic
import PullDiagnostics.Glob.Expression
import PullDiagnostics.Glob.Parser
import PullDiagnostics.Ignore.Rule
import PullDiagnostics.Ignore.Scope
import PullDiagnostics.Json.Basic
import PullDiagnostics.Json.Decode
import PullDiagnostics.Json.Parser
import PullDiagnostics.Json.Printer
import PullDiagnostics.Log
import PullDiagnostics.LogFilter
import PullDiagnostics.LogFilter.Directive
import PullDiagnostics.LogFilter.FieldValue
import PullDiagnostics.LogFilter.Pattern
import PullDiagnostics.LogFilter.Verbosity
import PullDiagnostics.Machine
import PullDiagnostics.Main
import PullDiagnostics.Orchestrator.Answer
import PullDiagnostics.Orchestrator.Basic
import PullDiagnostics.Pass
import PullDiagnostics.Program
import PullDiagnostics.Proofs.Cache.History
import PullDiagnostics.Proofs.Cache.Lookup
import PullDiagnostics.Proofs.Cache.Overlap
import PullDiagnostics.Proofs.Cache.Refinement
import PullDiagnostics.Proofs.Cache.Snapshot
import PullDiagnostics.Proofs.Checker.FileList
import PullDiagnostics.Proofs.Checker.Killed
import PullDiagnostics.Proofs.DocumentUri.Correspondence
import PullDiagnostics.Proofs.DocumentUri.LastName
import PullDiagnostics.Proofs.DocumentUri.Normal
import PullDiagnostics.Proofs.DocumentUri.Paths
import PullDiagnostics.Proofs.FileTree.Content
import PullDiagnostics.Proofs.FileTree.Descent
import PullDiagnostics.Proofs.FileTree.Order
import PullDiagnostics.Proofs.FileTree.Spelling
import PullDiagnostics.Proofs.FileTree.Walks
import PullDiagnostics.Proofs.FileTree.Written
import PullDiagnostics.Proofs.Orchestrator.Client
import PullDiagnostics.Proofs.Orchestrator.Freshness
import PullDiagnostics.Proofs.Orchestrator.History
import PullDiagnostics.Proofs.Orchestrator.Presented
import PullDiagnostics.Proofs.Orchestrator.Pulls
import PullDiagnostics.Proofs.Orchestrator.Quiet
import PullDiagnostics.Proofs.Orchestrator.Report
import PullDiagnostics.Proofs.Orchestrator.SingleFlight
import PullDiagnostics.Proofs.Orchestrator.Tracked
import PullDiagnostics.Proofs.Orchestrator.Watched
import PullDiagnostics.Proofs.Report.Details
import PullDiagnostics.Proofs.Report.Echo
import PullDiagnostics.Proofs.Report.Grammar
import PullDiagnostics.Proofs.Report.Lines
import PullDiagnostics.Proofs.Report.Reading
import PullDiagnostics.Proofs.Report.Segments
import PullDiagnostics.Proofs.Server.Drift
import PullDiagnostics.Proofs.Server.Jobs
import PullDiagnostics.Proofs.Settings.Layers
import PullDiagnostics.Proofs.SourceSet.Discovered
import PullDiagnostics.Proofs.SourceSet.Union
import PullDiagnostics.Proofs.Text.Blank
import PullDiagnostics.Proofs.Text.LineEnds
import PullDiagnostics.Proofs.Text.Punycode
import PullDiagnostics.Proofs.Text.Utf8
import PullDiagnostics.Proofs.Url.Address
import PullDiagnostics.Proofs.Url.Authority
import PullDiagnostics.Proofs.Url.Encoding
import PullDiagnostics.Proofs.Url.Hosts
import PullDiagnostics.Proofs.Url.RoundTrip
import PullDiagnostics.Proofs.Url.Segments
import PullDiagnostics.Proofs.Versions.Lives
import PullDiagnostics.Protocol.Capabilities
import PullDiagnostics.Protocol.Document
import PullDiagnostics.Protocol.Feature
import PullDiagnostics.Protocol.Frame
import PullDiagnostics.Protocol.Message
import PullDiagnostics.Protocol.Method
import PullDiagnostics.Protocol.Params
import PullDiagnostics.Protocol.Shape
import PullDiagnostics.Report.Line
import PullDiagnostics.Report.Reader
import PullDiagnostics.Server.Basic
import PullDiagnostics.Server.Connection
import PullDiagnostics.Server.Environment
import PullDiagnostics.Server.Jobs
import PullDiagnostics.Server.Session
import PullDiagnostics.Server.Site
import PullDiagnostics.Settings.Basic
import PullDiagnostics.Settings.File
import PullDiagnostics.Shell.Arithmetic
import PullDiagnostics.Shell.Builtin
import PullDiagnostics.Shell.Builtin.Basic
import PullDiagnostics.Shell.Builtin.Input
import PullDiagnostics.Shell.Builtin.Places
import PullDiagnostics.Shell.Builtin.Signals
import PullDiagnostics.Shell.Builtin.Variables
import PullDiagnostics.Shell.ByteSet
import PullDiagnostics.Shell.Condition
import PullDiagnostics.Shell.FileView
import PullDiagnostics.Shell.Format
import PullDiagnostics.Shell.Home
import PullDiagnostics.Shell.Listing
import PullDiagnostics.Shell.Mode
import PullDiagnostics.Shell.Numeral
import PullDiagnostics.Shell.Parser
import PullDiagnostics.Shell.Pathnames
import PullDiagnostics.Shell.Pattern
import PullDiagnostics.Shell.Programs
import PullDiagnostics.Shell.RealNumber
import PullDiagnostics.Shell.Regex
import PullDiagnostics.Shell.Run
import PullDiagnostics.Shell.Script
import PullDiagnostics.Shell.Search
import PullDiagnostics.Shell.Signal
import PullDiagnostics.Shell.State
import PullDiagnostics.SourceSet.Basic
import PullDiagnostics.SourceSet.Discovery
import PullDiagnostics.Text.Blank
import PullDiagnostics.Text.CharSet
import PullDiagnostics.Text.Combining
import PullDiagnostics.Text.Composition
import PullDiagnostics.Text.Direction
import PullDiagnostics.Text.Joining
import PullDiagnostics.Text.Letter
import PullDiagnostics.Text.Line
import PullDiagnostics.Text.Punycode
import PullDiagnostics.Text.Quoted
import PullDiagnostics.Text.Slice
import PullDiagnostics.Text.Unseen
import PullDiagnostics.Text.Utf8
import PullDiagnostics.Url.Basic
import PullDiagnostics.Url.File
import PullDiagnostics.Url.Host
import PullDiagnostics.Url.Label
import PullDiagnostics.Url.Parser
import PullDiagnostics.Url.Percent
import PullDiagnostics.Versions
