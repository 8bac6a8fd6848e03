import ClusterWatch.Api.Listen
import ClusterWatch.Api.Listing
import ClusterWatch.Api.Query
import ClusterWatch.Api.Routes
import ClusterWatch.Classification.Basic
import ClusterWatch.Classification.Staleness
import ClusterWatch.Classification.Tables
import ClusterWatch.CommandLine.Arguments
import ClusterWatch.CommandLine.Error
import ClusterWatch.CommandLine.Switch
import ClusterWatch.Config.Basic
import ClusterWatch.Config.Document
import ClusterWatch.Config.File
import ClusterWatch.Config.Format
import ClusterWatch.Controller.Basic
import ClusterWatch.Controller.Cache
import ClusterWatch.Controller.Process
import ClusterWatch.Controller.Step
import ClusterWatch.Event.Basic
import ClusterWatch.Event.Normalize
import ClusterWatch.Event.Query
import ClusterWatch.Event.Wire
import ClusterWatch.Fault
import ClusterWatch.FileTree
import ClusterWatch.Fleet.Basic
import ClusterWatch.Fleet.Runner
import ClusterWatch.Http.Endpoint
import ClusterWatch.Http.Host
import ClusterWatch.Http.Message
import ClusterWatch.Http.Script
import ClusterWatch.Http.Url
import ClusterWatch.Json.DecodeError
import ClusterWatch.Json.Format
import ClusterWatch.Json.Reader
import ClusterWatch.Json.Single
import ClusterWatch.Json.Text
import ClusterWatch.Json.Value
import ClusterWatch.Kubeconfig
import ClusterWatch.Log.Filter
import ClusterWatch.Log.Journal
import ClusterWatch.Log.Line
import ClusterWatch.Main
import ClusterWatch.Metrics
import ClusterWatch.Number.Binary64
import ClusterWatch.Number.Decimal
import ClusterWatch.Proofs.Classification.Dependence
import ClusterWatch.Proofs.Controller.Accounts
import ClusterWatch.Proofs.Controller.Attempts
import ClusterWatch.Proofs.Controller.Completion
import ClusterWatch.Proofs.Controller.Convergence
import ClusterWatch.Proofs.Controller.Deliveries
import ClusterWatch.Proofs.Controller.Execution
import ClusterWatch.Proofs.Controller.Fairness
import ClusterWatch.Proofs.Controller.Lifecycle
import ClusterWatch.Proofs.Controller.Outcomes
import ClusterWatch.Proofs.Controller.Pipeline
import ClusterWatch.Proofs.Controller.Processing
import ClusterWatch.Proofs.Controller.Requeues
import ClusterWatch.Proofs.Controller.Stages
import ClusterWatch.Proofs.Controller.Steps
import ClusterWatch.Proofs.Controller.Updates
import ClusterWatch.Proofs.Controller.Visits
import ClusterWatch.Proofs.Fleet.Isolation
import ClusterWatch.Proofs.Fleet.Members
import ClusterWatch.Proofs.Fleet.Running
import ClusterWatch.Proofs.Fleet.Summary
import ClusterWatch.Proofs.Json.Records
import ClusterWatch.Proofs.Json.RoundTrip
import ClusterWatch.Proofs.Path
import ClusterWatch.Proofs.Queue.Bookkeeping
import ClusterWatch.Proofs.Queue.Coalescing
import ClusterWatch.Proofs.Queue.Exclusivity
import ClusterWatch.Proofs.Queue.Fate
import ClusterWatch.Proofs.Queue.Getters
import ClusterWatch.Proofs.Queue.Lanes
import ClusterWatch.Proofs.Queue.Operations
import ClusterWatch.Proofs.Queue.Rest
import ClusterWatch.Proofs.Queue.Session
import ClusterWatch.Proofs.Queue.Supersession
import ClusterWatch.Proofs.Queue.Waits
import ClusterWatch.Proofs.Queue.Wakeups
import ClusterWatch.Proofs.Retry
import ClusterWatch.Proofs.Sink.AlertGate
import ClusterWatch.Proofs.Sink.Exchange
import ClusterWatch.Proofs.Sink.LineBreaks
import ClusterWatch.Proofs.Sink.Lines
import ClusterWatch.Proofs.Sink.Rotation
import ClusterWatch.Proofs.Sink.SharedIndex
import ClusterWatch.Proofs.Sink.Writes
import ClusterWatch.Proofs.Watch.Mirror
import ClusterWatch.Proofs.Watch.Replica
import ClusterWatch.Queue.Backoff
import ClusterWatch.Queue.Basic
import ClusterWatch.Queue.Shared
import ClusterWatch.Queue.Timed
import ClusterWatch.Resource.Basic
import ClusterWatch.Resource.Key
import ClusterWatch.Resource.Kind
import ClusterWatch.Resource.Manifest
import ClusterWatch.Retry
import ClusterWatch.Sink.Alert
import ClusterWatch.Sink.Delivery
import ClusterWatch.Sink.Kind
import ClusterWatch.Sink.LinePoint
import ClusterWatch.Sink.Log
import ClusterWatch.Sink.MessageBus
import ClusterWatch.Sink.Registry
import ClusterWatch.Sink.SearchIndex
import ClusterWatch.Sink.TimeSeries
import ClusterWatch.Sink.Webhook
import ClusterWatch.Startup.Failure
import ClusterWatch.Startup.Launch
import ClusterWatch.Startup.Service
import ClusterWatch.Text.Base64
import ClusterWatch.Text.Blank
import ClusterWatch.Text.Integer
import ClusterWatch.Text.Percent
import ClusterWatch.Text.Printable
import ClusterWatch.Text.Quoted
import ClusterWatch.Text.Search
import ClusterWatch.Text.Similarity
import ClusterWatch.Text.Utf8
import ClusterWatch.Time.Agenda
import ClusterWatch.Time.Calendar
import ClusterWatch.Time.Instant
import ClusterWatch.Time.Rfc3339
import ClusterWatch.Time.Span
import ClusterWatch.Time.Stamp
import ClusterWatch.Watch.Session
import ClusterWatch.Watch.Store
import ClusterWatch.Watch.Translator
import ClusterWatch.Yaml.Assembly
import ClusterWatch.Yaml.Cursor
import ClusterWatch.Yaml.Document
import ClusterWatch.Yaml.Json
import ClusterWatch.Yaml.Lexer.Block
import ClusterWatch.Yaml.Lexer.Indicator
import ClusterWatch.Yaml.Lexer.Plain
import ClusterWatch.Yaml.Lexer.Property
import ClusterWatch.Yaml.Lexer.Quoted
import ClusterWatch.Yaml.Node
import ClusterWatch.Yaml.Token
import ClusterWatch.Yaml.Tokens
import ClusterWatch.Proofs.Event.Containers
import ClusterWatch.Proofs.Event.Shapes
import ClusterWatch.Proofs.Event.Wire
import ClusterWatch.Proofs.Resource.Keys
import ClusterWatch.Proofs.Text.Numbers
import ClusterWatch.Proofs.Time.Calendar
import ClusterWatch.Proofs.Time.Stamps
import ClusterWatch.Proofs.Classification.Staleness
import ClusterWatch.Proofs.Controller.SyncWait
import ClusterWatch.Proofs.Sequencing
import ClusterWatch.Proofs.Config.Validation
import ClusterWatch.Proofs.Json.Sorting
import ClusterWatch.Proofs.Yaml.Parts
import ClusterWatch.Proofs.Yaml.Keys
import ClusterWatch.Proofs.Yaml.Conversion
import ClusterWatch.Proofs.Config.Settings
import ClusterWatch.Proofs.Config.Reading
import ClusterWatch.Proofs.Config.Sections
import ClusterWatch.Proofs.Config.Decoding
