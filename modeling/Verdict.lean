import Verdict.Agent.Basic
import Verdict.Audit.Queue
import Verdict.Audit.Record
import Verdict.Audit.Sink
import Verdict.CommandLine.Arguments
import Verdict.CommandLine.Report
import Verdict.CommandLine.Run
import Verdict.Condition.Basic
import Verdict.Condition.Evaluation
import Verdict.Condition.Trace
import Verdict.Config.Basic
import Verdict.Config.Document
import Verdict.Config.JsonText
import Verdict.Config.Source
import Verdict.Config.YamlText
import Verdict.Context
import Verdict.Decimal.Binary
import Verdict.Decimal.Fixed
import Verdict.Decimal.Notation
import Verdict.Decimal.Power
import Verdict.Decimal.Reading
import Verdict.Decimal.Shortest
import Verdict.Decision.Basic
import Verdict.Decision.Evaluation
import Verdict.Decision.Settings
import Verdict.Decision.Strategy
import Verdict.Decision.Tally
import Verdict.DotPath
import Verdict.Enrichment.Basic
import Verdict.Enrichment.Request
import Verdict.Enrichment.Template
import Verdict.Evaluator.Basic
import Verdict.Evaluator.Rules
import Verdict.Fields
import Verdict.Json.Printer
import Verdict.Json.Reader
import Verdict.Json.Record
import Verdict.Json.Tree
import Verdict.Json.Value
import Verdict.Main
import Verdict.Operator.Basic
import Verdict.Operator.Collection
import Verdict.Operator.Comparison
import Verdict.Operator.Geo
import Verdict.Operator.Numeric
import Verdict.Operator.Registry
import Verdict.Operator.Temporal
import Verdict.Operator.Text
import Verdict.Pattern.Basic
import Verdict.Pattern.Cache
import Verdict.Pattern.Compile
import Verdict.Pattern.Meaning
import Verdict.Pattern.Parser
import Verdict.Pattern.Size
import Verdict.Pattern.Syntax
import Verdict.Rule.Basic
import Verdict.Rule.Checked
import Verdict.Rule.Fault
import Verdict.Rule.Source
import Verdict.Rule.Trace
import Verdict.Rule.Validation
import Verdict.Service.Basic
import Verdict.Service.Batch
import Verdict.Text.Blank
import Verdict.Text.CharSet
import Verdict.Text.Digit
import Verdict.Text.File
import Verdict.Text.Quoted
import Verdict.Time.Calendar
import Verdict.Time.Duration
import Verdict.Time.Instant
import Verdict.Time.Timestamp
import Verdict.Unicode.Category
import Verdict.Unicode.Folding
import Verdict.Unicode.Property
import Verdict.Unicode.Script
import Verdict.Yaml.Core
import Verdict.Yaml.Cursor
import Verdict.Yaml.Lexer
import Verdict.Yaml.Node
import Verdict.Yaml.Scalar
import Verdict.Yaml.Token
import Verdict.Yaml.Value
import Verdict.Proofs.Condition.Grammar
import Verdict.Proofs.Condition.Replay
import Verdict.Proofs.Condition.Stateless
import Verdict.Proofs.Condition.Tracing
import Verdict.Proofs.Decimal.UnitInterval
import Verdict.Proofs.Evaluator.FirstMatch
import Verdict.Proofs.Rule.Explained
import Verdict.Proofs.Rule.Grammar
import Verdict.Proofs.Evaluator.Tracing
import Verdict.Proofs.Agent.Consultation
import Verdict.Proofs.Decision.Totality
import Verdict.Proofs.Agent.Attribution
import Verdict.Proofs.Agent.Queries
import Verdict.Proofs.Json.Canonical
import Verdict.Proofs.Json.NumberText
import Verdict.Proofs.Condition.Writing
import Verdict.Proofs.Rule.Writing
import Verdict.Proofs.Condition.Denotation
import Verdict.Proofs.Enrichment.Requests
import Verdict.Proofs.Condition.Fetching
import Verdict.Proofs.Context.Merging
import Verdict.Proofs.Condition.DerivedScope
import Verdict.Proofs.Rule.Relocation
import Verdict.Proofs.Rule.Independence
import Verdict.Proofs.Condition.Relevance
import Verdict.Proofs.Evaluator.Gate
import Verdict.Proofs.Agent.Persistence
import Verdict.Proofs.Service.Assembly
import Verdict.Proofs.Audit.Delivery
import Verdict.Proofs.Decision.Majority
import Verdict.Proofs.Agent.Conclusiveness
import Verdict.Proofs.Context.Reloading
import Verdict.Proofs.Service.Scheduling
import Verdict.Proofs.Context.Storing
import Verdict.Proofs.Text.ByteOrder
import Verdict.Proofs.Context.Spelling
import Verdict.Proofs.Decision.Leading
import Verdict.Proofs.Decision.WeightedAverage
import Verdict.Proofs.Decision.Ruling
import Verdict.Proofs.Decision.Consensus
import Verdict.Proofs.Decision.Reordering
import Verdict.Proofs.Decision.Backing
import Verdict.Proofs.Decision.Translation
import Verdict.Proofs.Decision.Bounds
import Verdict.Proofs.Time.Units
import Verdict.Proofs.Config.Writing
import Verdict.Proofs.Decimal.ExactValue
import Verdict.Proofs.Decimal.NearestInteger
import Verdict.Proofs.Operator.Ordering
import Verdict.Proofs.Operator.Numeric
import Verdict.Proofs.Json.Content
import Verdict.Proofs.Operator.SetAlgebra
import Verdict.Proofs.Operator.Distance
import Verdict.Proofs.Operator.Dates
import Verdict.Proofs.Place.Writing
import Verdict.Proofs.Place.Cutting
import Verdict.Proofs.Place.Bounds
import Verdict.Proofs.Enrichment.Templates
import Verdict.Proofs.Rule.LocationText
import Verdict.Proofs.Rule.Pinpointing
import Verdict.Proofs.Condition.Rereading
import Verdict.Proofs.Condition.Grouping
import Verdict.Proofs.Rule.Extension
import Verdict.Proofs.Pattern.Sharing
import Verdict.Proofs.Decision.Selection
import Verdict.Proofs.Decision.HeaviestVote
