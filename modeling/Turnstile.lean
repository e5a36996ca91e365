import Turnstile.Agenda.Document
import Turnstile.Agenda.Job
import Turnstile.Agenda.Poll
import Turnstile.Agenda.Pool
import Turnstile.Agenda.Schedule
import Turnstile.Condition.Code
import Turnstile.Condition.Diagnostic
import Turnstile.Condition.Document
import Turnstile.Condition.Evaluation
import Turnstile.Condition.Expression
import Turnstile.Condition.Grammar
import Turnstile.Condition.Program
import Turnstile.Condition.Property
import Turnstile.Condition.Simplify
import Turnstile.Condition.Token
import Turnstile.Context
import Turnstile.Digest.NameId
import Turnstile.Digest.Sha1
import Turnstile.Engine.App
import Turnstile.Engine.Attempt
import Turnstile.Engine.Batch
import Turnstile.Engine.Drain
import Turnstile.Engine.Lifecycle
import Turnstile.Engine.Notice
import Turnstile.Engine.Operation
import Turnstile.Engine.Step
import Turnstile.Engine.Work
import Turnstile.Flow.Blueprint
import Turnstile.Flow.Document
import Turnstile.Flow.Feed
import Turnstile.Flow.Machine
import Turnstile.Flow.Reachable
import Turnstile.Flow.Trigger
import Turnstile.Flow.Webhook
import Turnstile.History
import Turnstile.Label
import Turnstile.Log
import Turnstile.Number.Basic
import Turnstile.Number.Binary64
import Turnstile.Number.Shortest
import Turnstile.Pattern.Basic
import Turnstile.Pattern.Matching
import Turnstile.Pattern.Reader
import Turnstile.Proofs.Agenda.Firing
import Turnstile.Proofs.Agenda.Pool
import Turnstile.Proofs.Agenda.Tiling
import Turnstile.Proofs.Condition.Acceptance
import Turnstile.Proofs.Condition.Compilation
import Turnstile.Proofs.Condition.Derivation
import Turnstile.Proofs.Condition.Failures
import Turnstile.Proofs.Condition.Reading
import Turnstile.Proofs.Condition.Reads
import Turnstile.Proofs.Condition.Simplification
import Turnstile.Proofs.Condition.Unambiguous
import Turnstile.Proofs.Engine.Alone
import Turnstile.Proofs.Engine.Atomicity
import Turnstile.Proofs.Engine.Calls
import Turnstile.Proofs.Engine.Chronicle
import Turnstile.Proofs.Engine.Configured
import Turnstile.Proofs.Engine.Conversation
import Turnstile.Proofs.Engine.Deletion
import Turnstile.Proofs.Engine.Desk
import Turnstile.Proofs.Engine.Errands
import Turnstile.Proofs.Engine.Failures
import Turnstile.Proofs.Engine.Faithful
import Turnstile.Proofs.Engine.Gathering
import Turnstile.Proofs.Engine.Grants
import Turnstile.Proofs.Engine.Histories
import Turnstile.Proofs.Engine.Journal
import Turnstile.Proofs.Engine.Moves
import Turnstile.Proofs.Engine.Noninterference
import Turnstile.Proofs.Engine.Notices
import Turnstile.Proofs.Engine.Protocol
import Turnstile.Proofs.Engine.Retries
import Turnstile.Proofs.Engine.Run
import Turnstile.Proofs.Engine.Shadows
import Turnstile.Proofs.Engine.Solitary
import Turnstile.Proofs.Engine.Steps
import Turnstile.Proofs.Engine.Tokens
import Turnstile.Proofs.Engine.Triggers
import Turnstile.Proofs.Engine.Twins
import Turnstile.Proofs.Engine.Updates
import Turnstile.Proofs.Engine.Whereabouts
import Turnstile.Proofs.Flow.Built
import Turnstile.Proofs.Flow.Reports
import Turnstile.Proofs.Flow.Search
import Turnstile.Proofs.Flow.Trigger
import Turnstile.Proofs.Flow.Violations
import Turnstile.Proofs.History.Legality
import Turnstile.Proofs.History.Walk
import Turnstile.Proofs.Store.Accord
import Turnstile.Proofs.Store.Listings
import Turnstile.Proofs.Store.Locking
import Turnstile.Proofs.Store.Numbering
import Turnstile.Proofs.Store.Serial
import Turnstile.Proofs.Store.Tables
import Turnstile.Proofs.Time.DateTime
import Turnstile.Proofs.Time.Utc
import Turnstile.Proofs.Time.Window
import Turnstile.Proofs.Time.Zone
import Turnstile.Proofs.Value.Merge
import Turnstile.Proofs.Value.Pointwise
import Turnstile.Proofs.Value.Reordering
import Turnstile.Rehearsal.Change
import Turnstile.Rehearsal.Document
import Turnstile.Rehearsal.Runner
import Turnstile.Rehearsal.World
import Turnstile.Rehearsal.ZoneTable
import Turnstile.Settings
import Turnstile.Store.Basic
import Turnstile.Store.Request
import Turnstile.Text.Alphabetic
import Turnstile.Text.Bytes
import Turnstile.Text.CaseFold
import Turnstile.Text.Category
import Turnstile.Text.Classes
import Turnstile.Text.CodeSet
import Turnstile.Text.Dictionary
import Turnstile.Text.Extender
import Turnstile.Text.Names
import Turnstile.Text.Quoted
import Turnstile.Text.Script
import Turnstile.Time.Calendar
import Turnstile.Time.Clock
import Turnstile.Time.DateTime
import Turnstile.Time.Span
import Turnstile.Time.Timestamp
import Turnstile.Time.Window
import Turnstile.Time.Zone
import Turnstile.Toml.Quoted
import Turnstile.Toml.Reader
import Turnstile.Toml.Scalar
import Turnstile.Toml.Table
import Turnstile.Value.Basic
import Turnstile.Value.Equality
import Turnstile.Value.Fields
import Turnstile.Value.Merge
import Turnstile.Value.Path
import Turnstile.Value.Reader
import Turnstile.Value.Text
import Turnstile.Proofs.Engine.Deliberation
import Turnstile.Proofs.Engine.Resumption
import Turnstile.Proofs.Engine.Cycles
import Turnstile.Proofs.Engine.Visits
import Turnstile.Proofs.Engine.Batches
import Turnstile.Proofs.Condition.Lexeme
import Turnstile.Proofs.Condition.NormalForm
import Turnstile.Proofs.Condition.Lossless
import Turnstile.Proofs.Condition.Spelling
import Turnstile.Proofs.Condition.Layout
import Turnstile.Proofs.Condition.Misplaced
import Turnstile.Proofs.Condition.Underline
import Turnstile.Proofs.Flow.Headers
import Turnstile.Proofs.Condition.Comparison
import Turnstile.Proofs.Condition.Keys
import Turnstile.Proofs.Condition.Duration
