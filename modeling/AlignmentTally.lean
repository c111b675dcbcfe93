import AlignmentTally.Capture
import AlignmentTally.Clock.Civil
import AlignmentTally.Clock.Layout
import AlignmentTally.Clock.Reader
import AlignmentTally.Command.Accounts
import AlignmentTally.Command.Amount
import AlignmentTally.Command.Arranging
import AlignmentTally.Command.Batches
import AlignmentTally.Command.BlockUnit
import AlignmentTally.Command.Blocks
import AlignmentTally.Command.Checksum
import AlignmentTally.Command.Columns
import AlignmentTally.Command.Comparison
import AlignmentTally.Command.Count
import AlignmentTally.Command.Dating
import AlignmentTally.Command.Difference
import AlignmentTally.Command.Difference.Layout
import AlignmentTally.Command.Difference.Script
import AlignmentTally.Command.Difference.Template
import AlignmentTally.Command.Dump
import AlignmentTally.Command.Editor.Reader
import AlignmentTally.Command.Editor.Run
import AlignmentTally.Command.Editor.Script
import AlignmentTally.Command.Encoding
import AlignmentTally.Command.Ends
import AlignmentTally.Command.Expression
import AlignmentTally.Command.Factors
import AlignmentTally.Command.Fields
import AlignmentTally.Command.Figures
import AlignmentTally.Command.Filing.Describing
import AlignmentTally.Command.Filing.Finding
import AlignmentTally.Command.Filing.Finding.Format
import AlignmentTally.Command.Filing.Finding.Reader
import AlignmentTally.Command.Filing.Finding.Trial
import AlignmentTally.Command.Filing.Listing
import AlignmentTally.Command.Filing.Listing.Layout
import AlignmentTally.Command.Filing.Listing.Plan
import AlignmentTally.Command.Filing.Making
import AlignmentTally.Command.Filing.Mode
import AlignmentTally.Command.Filing.Moving
import AlignmentTally.Command.Filing.Paths
import AlignmentTally.Command.Filing.Property
import AlignmentTally.Command.Filing.Times
import AlignmentTally.Command.Joining
import AlignmentTally.Command.Lines
import AlignmentTally.Command.Noise
import AlignmentTally.Command.Numbering
import AlignmentTally.Command.Options
import AlignmentTally.Command.Precedence
import AlignmentTally.Command.Present
import AlignmentTally.Command.Printf
import AlignmentTally.Command.Quoted
import AlignmentTally.Command.Repetition
import AlignmentTally.Command.Rules.Parser
import AlignmentTally.Command.Rules.Run
import AlignmentTally.Command.Rules.State
import AlignmentTally.Command.Rules.Syntax
import AlignmentTally.Command.Rules.Token
import AlignmentTally.Command.Rules.Value
import AlignmentTally.Command.Search.Run
import AlignmentTally.Command.Search.Selection
import AlignmentTally.Command.Sequence
import AlignmentTally.Command.Shuffling
import AlignmentTally.Command.Simple
import AlignmentTally.Command.Sorting
import AlignmentTally.Command.Sorting.Key
import AlignmentTally.Command.Splitting
import AlignmentTally.Command.Starting
import AlignmentTally.Command.Translate
import AlignmentTally.Command.Work
import AlignmentTally.Counts
import AlignmentTally.Digest.Blake2
import AlignmentTally.Digest.Md5
import AlignmentTally.Digest.Sha
import AlignmentTally.Digest.Sm3
import AlignmentTally.Digest.Sum
import AlignmentTally.Digest.Word
import AlignmentTally.Files.Basic
import AlignmentTally.Format
import AlignmentTally.Installation
import AlignmentTally.Instant
import AlignmentTally.Invocation
import AlignmentTally.Json.Basic
import AlignmentTally.Json.Error
import AlignmentTally.Json.Printer
import AlignmentTally.Json.Reader
import AlignmentTally.Launch
import AlignmentTally.LineEnding
import AlignmentTally.Log
import AlignmentTally.Machine.CharSet
import AlignmentTally.Machine.Disk
import AlignmentTally.Machine.Escape
import AlignmentTally.Machine.Process
import AlignmentTally.Machine.Program
import AlignmentTally.Machine.Routine
import AlignmentTally.Machine.Run
import AlignmentTally.Machine.Signal
import AlignmentTally.Machine.Text
import AlignmentTally.Main
import AlignmentTally.Marker
import AlignmentTally.Marker.Pattern
import AlignmentTally.Number.Binary64
import AlignmentTally.Number.Directive
import AlignmentTally.Number.Layout
import AlignmentTally.Number.Scaled
import AlignmentTally.Number.Scanned
import AlignmentTally.Number.Shortest
import AlignmentTally.Options.Basic
import AlignmentTally.Options.Check
import AlignmentTally.Options.Parse
import AlignmentTally.Path
import AlignmentTally.Proofs.Attribution
import AlignmentTally.Proofs.Conservation
import AlignmentTally.Proofs.Counting
import AlignmentTally.Proofs.Endings
import AlignmentTally.Proofs.Formats
import AlignmentTally.Proofs.Json.Printable
import AlignmentTally.Proofs.Lines
import AlignmentTally.Proofs.Markers
import AlignmentTally.Proofs.PlainReport
import AlignmentTally.Proofs.ReportLines
import AlignmentTally.Proofs.Scraping
import AlignmentTally.Proofs.Search
import AlignmentTally.Proofs.Transcript
import AlignmentTally.Regex.Basic
import AlignmentTally.Regex.Reader
import AlignmentTally.Report.Document
import AlignmentTally.Report.Text
import AlignmentTally.Run
import AlignmentTally.Settings.Basic
import AlignmentTally.Settings.Read
import AlignmentTally.Settings.Write
import AlignmentTally.Shell.Arguments
import AlignmentTally.Shell.Arithmetic
import AlignmentTally.Shell.Brace
import AlignmentTally.Shell.Calculation
import AlignmentTally.Shell.Condition
import AlignmentTally.Shell.Control
import AlignmentTally.Shell.Declaration
import AlignmentTally.Shell.Declare
import AlignmentTally.Shell.Directory
import AlignmentTally.Shell.Evaluate
import AlignmentTally.Shell.Expand
import AlignmentTally.Shell.Features
import AlignmentTally.Shell.Field
import AlignmentTally.Shell.Invoke
import AlignmentTally.Shell.Jobs
import AlignmentTally.Shell.Lexicon
import AlignmentTally.Shell.Lines
import AlignmentTally.Shell.Lookup
import AlignmentTally.Shell.Output
import AlignmentTally.Shell.Parameters
import AlignmentTally.Shell.Parser
import AlignmentTally.Shell.Pattern
import AlignmentTally.Shell.Redirection
import AlignmentTally.Shell.Source
import AlignmentTally.Shell.Stack
import AlignmentTally.Shell.Start
import AlignmentTally.Shell.State
import AlignmentTally.Shell.Syntax
import AlignmentTally.Shell.Test
import AlignmentTally.Shell.Trace
import AlignmentTally.Shell.Value
import AlignmentTally.Shell.Writing
import AlignmentTally.SystemError
import AlignmentTally.Tallies
import AlignmentTally.TallyError
import AlignmentTally.Text.Search
import AlignmentTally.Toml.Basic
import AlignmentTally.Toml.Reader
import AlignmentTally.Toml.Scalar
import AlignmentTally.Utf8
import AlignmentTally.Proofs.Concatenation
import AlignmentTally.Proofs.Utf8
import AlignmentTally.Proofs.Verdict
import AlignmentTally.Proofs.CommandLine
import AlignmentTally.Proofs.Precedence
import AlignmentTally.Proofs.Json.Spelling
import AlignmentTally.Proofs.Json.Reading
import AlignmentTally.Proofs.Json.Pretty
import AlignmentTally.Proofs.ReportDocument
import AlignmentTally.Proofs.Patterns
import AlignmentTally.Proofs.Enclosed
import AlignmentTally.Proofs.Captures
import AlignmentTally.Proofs.Partition
import AlignmentTally.Proofs.FileTrees
import AlignmentTally.Proofs.Replay
import AlignmentTally.Proofs.Ranking
import AlignmentTally.Proofs.Reordering
import AlignmentTally.Proofs.Json.Compact
import AlignmentTally.Proofs.Descriptors
import AlignmentTally.Proofs.Joining
import AlignmentTally.Proofs.LaunchChecks
import AlignmentTally.Proofs.ArgumentOrder
import AlignmentTally.Proofs.Toml.Spelling
import AlignmentTally.Proofs.PartialSettings
import AlignmentTally.ExitStatus
