import InstallCheck.Category
import InstallCheck.Check.Inquiry
import InstallCheck.Check.Machines
import InstallCheck.Check.Network
import InstallCheck.Check.Platform
import InstallCheck.Check.Service
import InstallCheck.CheckError
import InstallCheck.Cloud.Account
import InstallCheck.Cloud.Change
import InstallCheck.Cloud.Clock
import InstallCheck.Cloud.Handles
import InstallCheck.Cloud.Query
import InstallCheck.Cloud.Recording
import InstallCheck.Cloud.Resource
import InstallCheck.Cloud.Snapshot
import InstallCheck.Cloud.Variation
import InstallCheck.CommandError
import InstallCheck.CommandLine.Grammar
import InstallCheck.CommandLine.HelpPage
import InstallCheck.CommandLine.Interface
import InstallCheck.CommandLine.Matching
import InstallCheck.CommandLine.Refusal
import InstallCheck.CommandLine.Request
import InstallCheck.CommandLine.Stop
import InstallCheck.CommandLine.Usage
import InstallCheck.Crn
import InstallCheck.Decimal.Binary64
import InstallCheck.Decimal.Reading
import InstallCheck.Decimal.Shortest
import InstallCheck.Document.Basic
import InstallCheck.Document.Format
import InstallCheck.Duration
import InstallCheck.Environment
import InstallCheck.Environment.File
import InstallCheck.Field.Document
import InstallCheck.Field.Issue
import InstallCheck.Field.Path
import InstallCheck.Files.Path
import InstallCheck.Files.Tree
import InstallCheck.Install.Config
import InstallCheck.Install.Document
import InstallCheck.Install.Loading
import InstallCheck.Install.Metadata
import InstallCheck.Install.Rules
import InstallCheck.Json.Parser
import InstallCheck.Json.Printer
import InstallCheck.Logging.Event
import InstallCheck.Logging.Filter
import InstallCheck.Logging.Line
import InstallCheck.Lookup.Context
import InstallCheck.Lookup.Error
import InstallCheck.Main
import InstallCheck.NameMap
import InstallCheck.Output.Format
import InstallCheck.Output.Writer
import InstallCheck.Program.Configure
import InstallCheck.Program.Listing
import InstallCheck.Program.Run
import InstallCheck.Program.Task
import InstallCheck.Program.Validate
import InstallCheck.Region
import InstallCheck.Settings.Basic
import InstallCheck.Settings.Loading
import InstallCheck.Settings.Place
import InstallCheck.Settings.Reading
import InstallCheck.Settings.Text
import InstallCheck.Text.Blank
import InstallCheck.Text.Quoted
import InstallCheck.Text.Similarity
import InstallCheck.Text.Style
import InstallCheck.Text.Utf8
import InstallCheck.Text.Wrapping
import InstallCheck.Timestamp
import InstallCheck.Toml.Assembly
import InstallCheck.Toml.Parser
import InstallCheck.Toml.Printer
import InstallCheck.Toml.Quoted
import InstallCheck.Toml.Scalar
import InstallCheck.Toml.Value
import InstallCheck.ValueError
import InstallCheck.Proofs.Inquiry.Dialogue
import InstallCheck.Proofs.Inquiry.Run
import InstallCheck.Proofs.Inquiry.Interruption
import InstallCheck.Proofs.Inquiry.Silence
import InstallCheck.Proofs.Cloud.Owners
import InstallCheck.Proofs.Install.Blanks
import InstallCheck.Proofs.Check.Findings
import InstallCheck.Proofs.Check.Survey
import InstallCheck.Proofs.Install.Rules
import InstallCheck.Proofs.Install.Loading
import InstallCheck.Proofs.Check.Accounting
import InstallCheck.Proofs.Check.Cancellation
import InstallCheck.Proofs.Check.Acceptance
import InstallCheck.Proofs.Check.VpcScope
import InstallCheck.Proofs.Check.Blanks
import InstallCheck.Proofs.Check.LeftOpen
import InstallCheck.Proofs.Check.Isolation
import InstallCheck.Proofs.Text.Lines
import InstallCheck.Proofs.Field.Lines
import InstallCheck.Proofs.Check.Places
import InstallCheck.Proofs.Check.Lines
import InstallCheck.Proofs.Check.Repetition
import InstallCheck.Proofs.Check.VpcGroup
import InstallCheck.Proofs.Files.Path
import InstallCheck.Proofs.Files.Tree
import InstallCheck.Proofs.CommandLine.Init
import InstallCheck.Proofs.Settings.Default
import InstallCheck.Proofs.Program.Task
import InstallCheck.Proofs.Program.Recovery
import InstallCheck.Proofs.Program.Validation
import InstallCheck.Proofs.NameMap
import InstallCheck.Proofs.Inquiry.Relation
import InstallCheck.Proofs.Check.Likeness
import InstallCheck.Proofs.Check.Tables
import InstallCheck.Proofs.Check.Reordering
import InstallCheck.Proofs.Check.Merging
import InstallCheck.Proofs.Check.ZoneListing
import InstallCheck.Proofs.Check.RuleKinds
import InstallCheck.Proofs.Check.Wording
import InstallCheck.Proofs.Check.Sections
import InstallCheck.Proofs.Cloud.Recording
import InstallCheck.Proofs.Field.Path
import InstallCheck.Proofs.Crn
import InstallCheck.Proofs.Install.Report
import InstallCheck.Proofs.Check.Lookups
import InstallCheck.Proofs.Json.RoundTrip
import InstallCheck.Proofs.Program.Formats
import InstallCheck.Proofs.Cloud.Directory
import InstallCheck.Proofs.Check.Registration
import InstallCheck.Proofs.Lookup.Flags
import InstallCheck.Proofs.Region
import InstallCheck.Proofs.Cloud.Delays
import InstallCheck.Proofs.Cloud.Sharing
import InstallCheck.Proofs.Document.RoundTrip
import InstallCheck.Proofs.Check.PathTexts
