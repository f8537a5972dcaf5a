import WorkflowAudit.Text.Search
import WorkflowAudit.Text.Lines
import WorkflowAudit.Text.Blank
import WorkflowAudit.Text.Digit
import WorkflowAudit.Text.Printable
import WorkflowAudit.Text.Quoted
import WorkflowAudit.Text.Utf8
import WorkflowAudit.Decimal.Binary
import WorkflowAudit.Decimal.Shortest
import WorkflowAudit.Decimal.Reading
import WorkflowAudit.Calendar
import WorkflowAudit.Value.Basic
import WorkflowAudit.Value.Written
import WorkflowAudit.Value.Access
import WorkflowAudit.Failure
import WorkflowAudit.Json.Reader
import WorkflowAudit.Json.Writer
import WorkflowAudit.Session.Saved
import WorkflowAudit.Session.Store
import WorkflowAudit.Session.Files
import WorkflowAudit.Session.Basic
import WorkflowAudit.Version
import WorkflowAudit.Release
import WorkflowAudit.Digest
import WorkflowAudit.Yaml.Fault
import WorkflowAudit.Yaml.Cursor
import WorkflowAudit.Yaml.Token.Basic
import WorkflowAudit.Yaml.Token.Quoted
import WorkflowAudit.Yaml.Token.Plain
import WorkflowAudit.Yaml.Token.Block
import WorkflowAudit.Yaml.Token.Mark
import WorkflowAudit.Yaml.Token.Stream
import WorkflowAudit.Yaml.Schema
import WorkflowAudit.Yaml.Node.Basic
import WorkflowAudit.Yaml.Node.Reading
import WorkflowAudit.Yaml.Scalar
import WorkflowAudit.Yaml.Document
import WorkflowAudit.Script
import WorkflowAudit.Extraction
import WorkflowAudit.Text.Identifier
import WorkflowAudit.Pattern.Basic
import WorkflowAudit.Pattern.Matcher
import WorkflowAudit.Pattern.Reader
import WorkflowAudit.Findings
import WorkflowAudit.Bundle
import WorkflowAudit.Report
import WorkflowAudit.Batch
import WorkflowAudit.Session.Description
import WorkflowAudit.Operation
import WorkflowAudit.Code.Tree
import WorkflowAudit.Code.Token
import WorkflowAudit.Text.CharacterName
import WorkflowAudit.Code.Literal
import WorkflowAudit.Text.Compatibility
import WorkflowAudit.Code.Reading
import WorkflowAudit.Code.Expression
import WorkflowAudit.Code.CasePattern
import WorkflowAudit.Code.Statement
import WorkflowAudit.Code.Program
import WorkflowAudit.Code.Statistics
import WorkflowAudit.Code.Vulnerabilities
import WorkflowAudit.CommandLine.Options
import WorkflowAudit.CommandLine.Usage
import WorkflowAudit.CommandLine.Commands
import WorkflowAudit.Main
import WorkflowAudit.Proofs.Runs
import WorkflowAudit.Proofs.Changes
import WorkflowAudit.Proofs.Showable
import WorkflowAudit.Proofs.Places
import WorkflowAudit.Proofs.BatchRuns
import WorkflowAudit.Proofs.Assessment
import WorkflowAudit.Proofs.Pinning
import WorkflowAudit.Proofs.Exposure
import WorkflowAudit.Proofs.JsonValues
import WorkflowAudit.Proofs.WritableReports
import WorkflowAudit.Proofs.Agreement
import WorkflowAudit.Proofs.Caches
import WorkflowAudit.Proofs.SideBySide
import WorkflowAudit.Proofs.Independence
import WorkflowAudit.Proofs.Equality
import WorkflowAudit.Proofs.SameNames
import WorkflowAudit.Proofs.Lookups
import WorkflowAudit.Proofs.Outlines
import WorkflowAudit.Proofs.BatchOrder
import WorkflowAudit.Proofs.Records
import WorkflowAudit.Proofs.Shapes
import WorkflowAudit.Proofs.ExposurePattern
import WorkflowAudit.Proofs.ScriptFindings
import WorkflowAudit.Proofs.Replay
import WorkflowAudit.Proofs.ActionFindings
import WorkflowAudit.Proofs.RankedTriggers
import WorkflowAudit.Proofs.PermissionFindings
import WorkflowAudit.Proofs.Fitting
import WorkflowAudit.Proofs.Attempts
import WorkflowAudit.Proofs.Interchange
import WorkflowAudit.Proofs.Resets
import WorkflowAudit.Proofs.Tokens
import WorkflowAudit.Proofs.Retries
import WorkflowAudit.Proofs.MajorVersions
import WorkflowAudit.Proofs.Classification
import WorkflowAudit.Proofs.ReportedRanks
import WorkflowAudit.Proofs.TreeOrder
import WorkflowAudit.Proofs.Imports
import WorkflowAudit.Proofs.WholeReports
import WorkflowAudit.Proofs.LexicalFaults
import WorkflowAudit.Proofs.NodeFaults
import WorkflowAudit.Proofs.DocumentFaults
import WorkflowAudit.Proofs.EscapingFaults
import WorkflowAudit.Proofs.ActionCounts
import WorkflowAudit.Proofs.CompletePrograms
import WorkflowAudit.Proofs.StepReviews
import WorkflowAudit.Proofs.Accumulation
import WorkflowAudit.Proofs.Segments
import WorkflowAudit.Proofs.NearestDoubles
import WorkflowAudit.Proofs.ShortestDecimals
import WorkflowAudit.Proofs.WrittenScalars
import WorkflowAudit.Proofs.WrittenValues
import WorkflowAudit.Proofs.CutTexts
import WorkflowAudit.Proofs.ValueBundles
