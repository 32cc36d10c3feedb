import CameraTelemetry.Agent.Basic
import CameraTelemetry.Agent.HealthDocument
import CameraTelemetry.Agent.History
import CameraTelemetry.Agent.Scrape
import CameraTelemetry.Agent.Service
import CameraTelemetry.Agent.Setup
import CameraTelemetry.Agent.Transcript
import CameraTelemetry.Cache.Entry
import CameraTelemetry.Cache.History
import CameraTelemetry.Cache.Machine
import CameraTelemetry.Cache.Remote
import CameraTelemetry.Cache.Schedule
import CameraTelemetry.Camera.Answer
import CameraTelemetry.Camera.Challenge
import CameraTelemetry.Camera.Client
import CameraTelemetry.Camera.Credentials
import CameraTelemetry.Camera.Sharing
import CameraTelemetry.CommandLine
import CameraTelemetry.Cpu.Ticks
import CameraTelemetry.Cpu.Usage
import CameraTelemetry.Duration
import CameraTelemetry.Exposition.MetricSet
import CameraTelemetry.Exposition.TextFormat
import CameraTelemetry.Failure
import CameraTelemetry.Files
import CameraTelemetry.Files.Tree
import CameraTelemetry.Health.Measured
import CameraTelemetry.Health.Report
import CameraTelemetry.Health.Status
import CameraTelemetry.Health.Threshold
import CameraTelemetry.Host.Counters
import CameraTelemetry.Host.Mounts
import CameraTelemetry.Host.Reading
import CameraTelemetry.Host.Sampler
import CameraTelemetry.Host.Snapshot
import CameraTelemetry.Http.Form
import CameraTelemetry.Http.Message
import CameraTelemetry.Http.Status
import CameraTelemetry.Http.Wire
import CameraTelemetry.Journal.Event
import CameraTelemetry.Journal.Filter
import CameraTelemetry.Journal.Ring
import CameraTelemetry.Journal.Timestamp
import CameraTelemetry.Json.Decode
import CameraTelemetry.Json.NumberLiteral
import CameraTelemetry.Json.StringLiteral
import CameraTelemetry.Json.Tree
import CameraTelemetry.Json.Value
import CameraTelemetry.Main
import CameraTelemetry.Number.Binary64
import CameraTelemetry.Number.Count
import CameraTelemetry.Number.Decimal
import CameraTelemetry.Number.Layout
import CameraTelemetry.Number.Power
import CameraTelemetry.Number.Shortest
import CameraTelemetry.Paths
import CameraTelemetry.Proofs.Agent.MetricNames
import CameraTelemetry.Proofs.Agent.Serving
import CameraTelemetry.Proofs.Cache.Abandonment
import CameraTelemetry.Proofs.Cache.Accounting
import CameraTelemetry.Proofs.Cache.Completion
import CameraTelemetry.Proofs.Cache.LastSuccess
import CameraTelemetry.Proofs.Cache.SingleFlight
import CameraTelemetry.Proofs.Cache.Staleness
import CameraTelemetry.Proofs.Cache.TimeToLive
import CameraTelemetry.Proofs.Cache.Transition
import CameraTelemetry.Proofs.Cache.Waiting
import CameraTelemetry.Proofs.Exposition.Collection
import CameraTelemetry.Proofs.Host.Baseline
import CameraTelemetry.Settings.Address
import CameraTelemetry.Settings.Arguments
import CameraTelemetry.Settings.Basic
import CameraTelemetry.Settings.Directive
import CameraTelemetry.Settings.Environment
import CameraTelemetry.Settings.Thresholds
import CameraTelemetry.Text.Base64
import CameraTelemetry.Text.Quoted
import CameraTelemetry.Text.Shapeless
import CameraTelemetry.Text.Utf8
import CameraTelemetry.Text.Words
import CameraTelemetry.Proofs.Agent.ProcessorGauge
import CameraTelemetry.Proofs.Agent.HealthVerdict
import CameraTelemetry.Proofs.Agent.ScrapeText
import CameraTelemetry.Proofs.Cache.Reaching
import CameraTelemetry.Proofs.Camera.Dealing
import CameraTelemetry.Proofs.Camera.Renewal
import CameraTelemetry.Proofs.Camera.Retry
import CameraTelemetry.Proofs.Cache.Likeness
import CameraTelemetry.Proofs.Camera.Likeness
import CameraTelemetry.Proofs.Camera.Passwords
import CameraTelemetry.Proofs.Agent.Likeness
import CameraTelemetry.Proofs.Agent.Secrecy
import CameraTelemetry.Proofs.Settings.Spelling
import CameraTelemetry.Proofs.Settings.Layering
import CameraTelemetry.Proofs.Agent.ReportAgreement
import CameraTelemetry.Proofs.Agent.FamilyIsolation
import CameraTelemetry.Proofs.Agent.Counting
import CameraTelemetry.Proofs.Cpu.Saturation
import CameraTelemetry.Proofs.Cache.Deadline
import CameraTelemetry.Proofs.Cache.Attempts
import CameraTelemetry.Proofs.Exposition.Lines
import CameraTelemetry.Proofs.Exposition.Offers
import CameraTelemetry.Proofs.Exposition.Rows
import CameraTelemetry.Proofs.Exposition.Fidelity
import CameraTelemetry.Proofs.Settings.Decision
import CameraTelemetry.Proofs.Settings.Respelling
import CameraTelemetry.Proofs.Health.Aggregation
import CameraTelemetry.Proofs.Health.Monotonicity
import CameraTelemetry.Proofs.Journal.Retention
import CameraTelemetry.Proofs.Text.Separation
import CameraTelemetry.Proofs.Number.Numerals
import CameraTelemetry.Proofs.Number.Nearest
import CameraTelemetry.Proofs.Number.RoundTrip
import CameraTelemetry.Proofs.Number.WrittenForm
import CameraTelemetry.Proofs.Cpu.AggregateLine
import CameraTelemetry.Proofs.Exposition.CounterValues
import CameraTelemetry.Proofs.Camera.ChallengeGrammar
import CameraTelemetry.Proofs.Camera.Rejection
import CameraTelemetry.Proofs.Host.PrimaryInterface
import CameraTelemetry.Proofs.Json.Grammar
import CameraTelemetry.Proofs.Json.Literals
import CameraTelemetry.Proofs.Json.Reading
import CameraTelemetry.Proofs.Json.Decoding
import CameraTelemetry.Proofs.Json.Beginning
import CameraTelemetry.Proofs.Settings.ThresholdsFile
