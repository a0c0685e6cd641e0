import DependencyAudit.Archive
import DependencyAudit.Artifact
import DependencyAudit.Ascending
import DependencyAudit.Audit
import DependencyAudit.ClassIndex
import DependencyAudit.ClassName
import DependencyAudit.CommandLine.Answer
import DependencyAudit.CommandLine.Arguments
import DependencyAudit.CommandLine.Configuration
import DependencyAudit.CommandLine.Ending
import DependencyAudit.CommandLine.Session
import DependencyAudit.CommandLine.Switch
import DependencyAudit.Config
import DependencyAudit.Coordinate
import DependencyAudit.Dependency
import DependencyAudit.Disk
import DependencyAudit.Failure
import DependencyAudit.Inspection
import DependencyAudit.Json.Reader
import DependencyAudit.Json.Token
import DependencyAudit.Log
import DependencyAudit.Main
import DependencyAudit.Path
import DependencyAudit.Proofs.Acceptance
import DependencyAudit.Proofs.Additivity
import DependencyAudit.Proofs.Agreement
import DependencyAudit.Proofs.ArtifactOrder
import DependencyAudit.Proofs.Ascending
import DependencyAudit.Proofs.Audit
import DependencyAudit.Proofs.ClassIndex
import DependencyAudit.Proofs.Declaring
import DependencyAudit.Proofs.Descent
import DependencyAudit.Proofs.Descriptor
import DependencyAudit.Proofs.Discovery
import DependencyAudit.Proofs.Duplicates
import DependencyAudit.Proofs.Edits
import DependencyAudit.Proofs.Entries
import DependencyAudit.Proofs.EntryNames
import DependencyAudit.Proofs.Equality
import DependencyAudit.Proofs.ExitCode
import DependencyAudit.Proofs.Failing
import DependencyAudit.Proofs.FirstLevel
import DependencyAudit.Proofs.Identity
import DependencyAudit.Proofs.Interchange
import DependencyAudit.Proofs.Jdeps
import DependencyAudit.Proofs.Listing
import DependencyAudit.Proofs.Locations
import DependencyAudit.Proofs.Mending
import DependencyAudit.Proofs.Newlines
import DependencyAudit.Proofs.OrderIndependence
import DependencyAudit.Proofs.Outcome
import DependencyAudit.Proofs.Overriding
import DependencyAudit.Proofs.Packing
import DependencyAudit.Proofs.PathTexts
import DependencyAudit.Proofs.Provenance
import DependencyAudit.Proofs.Reconciliation
import DependencyAudit.Proofs.Redundancy
import DependencyAudit.Proofs.Reordering
import DependencyAudit.Proofs.RoundTrip
import DependencyAudit.Proofs.SeenAlike
import DependencyAudit.Proofs.Selection
import DependencyAudit.Proofs.Silencing
import DependencyAudit.Proofs.Stripped
import DependencyAudit.Proofs.Suggestion
import DependencyAudit.Proofs.Supply
import DependencyAudit.Proofs.Switches
import DependencyAudit.Proofs.Tree
import DependencyAudit.Proofs.Validity
import DependencyAudit.Proofs.Visit
import DependencyAudit.Proofs.Written
import DependencyAudit.Reconciliation
import DependencyAudit.Reference.Collection
import DependencyAudit.Reference.Format
import DependencyAudit.Report
import DependencyAudit.Resolution
import DependencyAudit.Schema
import DependencyAudit.Text.Characters
import DependencyAudit.Text.ControlSequence
import DependencyAudit.Text.Decoding
import DependencyAudit.Text.Quoted
import DependencyAudit.Text.Similarity
import DependencyAudit.Text.Split
import DependencyAudit.Toml.Document
import DependencyAudit.Toml.Moment
import DependencyAudit.Toml.Number
import DependencyAudit.Toml.Quoted
import DependencyAudit.Toml.Table
import DependencyAudit.Toml.Value
