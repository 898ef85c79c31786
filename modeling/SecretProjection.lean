import SecretProjection.Binary64
import SecretProjection.Cluster.ApiVersion
import SecretProjection.Cluster.Client
import SecretProjection.Cluster.Condition
import SecretProjection.Cluster.Discovery
import SecretProjection.Cluster.Exchange
import SecretProjection.Cluster.Metadata
import SecretProjection.Cluster.Secret
import SecretProjection.Cluster.Server
import SecretProjection.Cluster.Shape
import SecretProjection.Cluster.StatusCode
import SecretProjection.Controller
import SecretProjection.Controller.Availability
import SecretProjection.Controller.Queue
import SecretProjection.Controller.Setup
import SecretProjection.Controller.Watch
import SecretProjection.Digest
import SecretProjection.Document
import SecretProjection.Duration
import SecretProjection.Duration.Parser
import SecretProjection.Duration.Search
import SecretProjection.Fault
import SecretProjection.Instant
import SecretProjection.Instant.Calendar
import SecretProjection.Instant.Parser
import SecretProjection.Instant.Printer
import SecretProjection.Json.Basic
import SecretProjection.Json.Cursor
import SecretProjection.Json.Patch
import SecretProjection.Json.Printer
import SecretProjection.Json.Reader
import SecretProjection.Json.Record
import SecretProjection.Json.Shape
import SecretProjection.Main
import SecretProjection.Output.Basic
import SecretProjection.Output.Clustered
import SecretProjection.Output.Memory
import SecretProjection.Projection.Basic
import SecretProjection.Projection.Codec
import SecretProjection.Projection.Schema
import SecretProjection.Projection.Shape
import SecretProjection.Proofs.Attempt
import SecretProjection.Proofs.Availability
import SecretProjection.Proofs.Backoff
import SecretProjection.Proofs.Base64
import SecretProjection.Proofs.Blanks
import SecretProjection.Proofs.Calendar
import SecretProjection.Proofs.CanonicalSource
import SecretProjection.Proofs.Chains
import SecretProjection.Proofs.CharacterBytes
import SecretProjection.Proofs.Composition
import SecretProjection.Proofs.Continuation
import SecretProjection.Proofs.DataDigest
import SecretProjection.Proofs.Deadline
import SecretProjection.Proofs.DecodedFields
import SecretProjection.Proofs.Delimiters
import SecretProjection.Proofs.Dependencies
import SecretProjection.Proofs.Descent
import SecretProjection.Proofs.Digits
import SecretProjection.Proofs.Disclosure
import SecretProjection.Proofs.Documents
import SecretProjection.Proofs.DurationSearch
import SecretProjection.Proofs.Edits
import SecretProjection.Proofs.ExactSchedule
import SecretProjection.Proofs.FreshSessions
import SecretProjection.Proofs.Gathering
import SecretProjection.Proofs.Interleavings
import SecretProjection.Proofs.JsonTexts
import SecretProjection.Proofs.Layouts
import SecretProjection.Proofs.Masking
import SecretProjection.Proofs.MetadataTexts
import SecretProjection.Proofs.Offsets
import SecretProjection.Proofs.Outcomes
import SecretProjection.Proofs.Output
import SecretProjection.Proofs.ParsedTrees
import SecretProjection.Proofs.Patches
import SecretProjection.Proofs.PlainValues
import SecretProjection.Proofs.Quiescence
import SecretProjection.Proofs.Quotes
import SecretProjection.Proofs.Recommits
import SecretProjection.Proofs.Records
import SecretProjection.Proofs.References
import SecretProjection.Proofs.Registry
import SecretProjection.Proofs.Rendering
import SecretProjection.Proofs.Results
import SecretProjection.Proofs.Rivals
import SecretProjection.Proofs.RoundTrips
import SecretProjection.Proofs.Runs
import SecretProjection.Proofs.Scanners
import SecretProjection.Proofs.Schedule
import SecretProjection.Proofs.Secrecy
import SecretProjection.Proofs.Separation
import SecretProjection.Proofs.ShapedTexts
import SecretProjection.Proofs.SideBySide
import SecretProjection.Proofs.Snapshots
import SecretProjection.Proofs.SourceSpans
import SecretProjection.Proofs.Stops
import SecretProjection.Proofs.StoredForms
import SecretProjection.Proofs.StringLiterals
import SecretProjection.Proofs.Table
import SecretProjection.Proofs.TextOrder
import SecretProjection.Proofs.Timed
import SecretProjection.Proofs.Tokens
import SecretProjection.Proofs.Trimming
import SecretProjection.Proofs.Validity
import SecretProjection.Proofs.VaultFaults
import SecretProjection.Proofs.WakeUps
import SecretProjection.Proofs.WholeDurations
import SecretProjection.Proofs.WholeNumbers
import SecretProjection.Proofs.WrittenDurations
import SecretProjection.Proofs.WrittenInstants
import SecretProjection.Schedule
import SecretProjection.Settings
import SecretProjection.Source.Basic
import SecretProjection.Source.Scripted
import SecretProjection.Startup
import SecretProjection.Sync
import SecretProjection.Table
import SecretProjection.Template.Basic
import SecretProjection.Template.Eval
import SecretProjection.Template.Offsets
import SecretProjection.Template.Parser
import SecretProjection.Template.Printer
import SecretProjection.Template.Span
import SecretProjection.Template.Token
import SecretProjection.Text.Base64
import SecretProjection.Text.Blank
import SecretProjection.Text.Digits
import SecretProjection.Text.LetterCase
import SecretProjection.Text.LetterCase.Classes
import SecretProjection.Text.LetterCase.Runs
import SecretProjection.Text.Quoted
import SecretProjection.Text.Unprintable
import SecretProjection.Text.Utf8
import SecretProjection.Timed
import SecretProjection.Trigger
import SecretProjection.Url.Basic
import SecretProjection.Url.Host
import SecretProjection.Url.Parser
import SecretProjection.Url.Percent
import SecretProjection.Url.Punycode
import SecretProjection.Url.Reference
import SecretProjection.Vault.Endpoint
import SecretProjection.Vault.Exchange
import SecretProjection.Vault.Response
import SecretProjection.Vault.Source
import SecretProjection.Yaml
