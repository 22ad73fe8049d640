import Tracing.Clock
import Tracing.Conversion
import Tracing.Delivery.AnySender
import Tracing.Delivery.Filter
import Tracing.Delivery.Interleaving
import Tracing.Delivery.RemoteReporter
import Tracing.Delivery.Reporter
import Tracing.Delivery.Sender
import Tracing.Fault
import Tracing.Host
import Tracing.Http.HostName
import Tracing.Http.NameCharacter
import Tracing.Http.NameFault
import Tracing.Http.NameLabel
import Tracing.Http.Network
import Tracing.Http.Punycode
import Tracing.Http.Url
import Tracing.Identifier
import Tracing.Json
import Tracing.Json.Access
import Tracing.Json.Literal
import Tracing.Json.Reader
import Tracing.Json.Token
import Tracing.Json.Writer
import Tracing.Logging
import Tracing.Metrics.Instrument
import Tracing.Metrics.Name
import Tracing.Metrics.Registry
import Tracing.Metrics.Store
import Tracing.Metrics.Tally
import Tracing.Notice
import Tracing.Number
import Tracing.Number.Binary64
import Tracing.Number.Decimal
import Tracing.Number.Extended
import Tracing.Number.Written
import Tracing.Pipeline
import Tracing.Pipeline.Line
import Tracing.Proofs.Credits.Envelope
import Tracing.Proofs.Credits.Insertion
import Tracing.Proofs.Delivery.Accounting
import Tracing.Proofs.Delivery.AnySender
import Tracing.Proofs.Delivery.Batches
import Tracing.Proofs.Delivery.Buffering
import Tracing.Proofs.Delivery.Capacity
import Tracing.Proofs.Delivery.Containment
import Tracing.Proofs.Delivery.Interleaving
import Tracing.Proofs.Delivery.Order
import Tracing.Proofs.Delivery.Outage
import Tracing.Proofs.Delivery.Recovery
import Tracing.Proofs.Delivery.Transition
import Tracing.Proofs.Filtering.Balance
import Tracing.Proofs.Filtering.Bystanders
import Tracing.Proofs.Filtering.Forest
import Tracing.Proofs.Filtering.Forwarding
import Tracing.Proofs.Filtering.Traces
import Tracing.Proofs.Json.Edits
import Tracing.Proofs.Json.Members
import Tracing.Proofs.Json.Numeral
import Tracing.Proofs.Json.Quoting
import Tracing.Proofs.Json.Reading
import Tracing.Proofs.Json.Words
import Tracing.Proofs.Metrics.Bookkeeping
import Tracing.Proofs.Metrics.Naming
import Tracing.Proofs.Metrics.TagText
import Tracing.Proofs.Number.Decimal
import Tracing.Proofs.Number.Exactness
import Tracing.Proofs.Number.Rounding
import Tracing.Proofs.Pipeline.Accounts
import Tracing.Proofs.Pipeline.Acts
import Tracing.Proofs.Pipeline.Conservation
import Tracing.Proofs.Pipeline.Instruments
import Tracing.Proofs.Pipeline.Lateness
import Tracing.Proofs.Sampling.Admission
import Tracing.Proofs.Sampling.Change
import Tracing.Proofs.Sampling.Convergence
import Tracing.Proofs.Sampling.Cycle
import Tracing.Proofs.Sampling.Equality
import Tracing.Proofs.Sampling.Equivalence
import Tracing.Proofs.Sampling.ExportedText
import Tracing.Proofs.Sampling.Fraction
import Tracing.Proofs.Sampling.Independence
import Tracing.Proofs.Sampling.Joint
import Tracing.Proofs.Sampling.Nesting
import Tracing.Proofs.Sampling.OperationUpdate
import Tracing.Proofs.Sampling.Range
import Tracing.Proofs.Sampling.Redundancy
import Tracing.Proofs.Sampling.Refusal
import Tracing.Proofs.Sampling.Release
import Tracing.Proofs.Sampling.Repetition
import Tracing.Proofs.Sampling.RoundTrip
import Tracing.Proofs.Sampling.Succession
import Tracing.Proofs.Sampling.TableRun
import Tracing.Proofs.Sampling.TableUpdate
import Tracing.Proofs.Sampling.Tolerance
import Tracing.Proofs.Sampling.Turns
import Tracing.Proofs.Sampling.Validity
import Tracing.Proofs.Sampling.Within
import Tracing.Proofs.Settings.Saving
import Tracing.Proofs.Settings.Validity
import Tracing.Sampling.Guaranteed
import Tracing.Sampling.OperationTable
import Tracing.Sampling.Rate
import Tracing.Sampling.Remote
import Tracing.Sampling.Sampler
import Tracing.Sampling.Source
import Tracing.Sampling.Strategy
import Tracing.Sampling.Throughput
import Tracing.SamplingStatus
import Tracing.Schedule
import Tracing.Settings.Environment
import Tracing.Settings.Folder
import Tracing.Settings.ReporterSettings
import Tracing.Settings.SamplerSettings
import Tracing.Settings.SettingsFault
import Tracing.Settings.TracerSettings
import Tracing.Settings.VariableRules
import Tracing.Span
import Tracing.Span.Given
import Tracing.Specification.Network
import Tracing.Specification.Reporter
import Tracing.Specification.Sampler
import Tracing.Tags
import Tracing.Text.Blank
import Tracing.Text.CaseTable
import Tracing.Text.Composition
import Tracing.Text.DecimalDigit
import Tracing.Text.Direction
import Tracing.Text.Joining
import Tracing.Text.LetterCase
import Tracing.Text.Mark
import Tracing.Text.Percent
import Tracing.Text.Ranges
import Tracing.Text.Script
import Tracing.Text.Unprintable
import Tracing.Text.Utf8
import Tracing.TokenBucket
import Tracing.Violation
