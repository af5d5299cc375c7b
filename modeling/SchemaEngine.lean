import SchemaEngine.Change.Dispatcher
import SchemaEngine.Change.Event
import SchemaEngine.Change.Executor
import SchemaEngine.Change.FlushQueue
import SchemaEngine.Change.Relevance
import SchemaEngine.Change.Watcher
import SchemaEngine.Config.File
import SchemaEngine.Config.Load
import SchemaEngine.Config.Rules
import SchemaEngine.Config.Settings
import SchemaEngine.Disk.Fault
import SchemaEngine.Disk.Index
import SchemaEngine.Disk.Tree
import SchemaEngine.Document.Fault
import SchemaEngine.Document.Store
import SchemaEngine.Host.Collaborators
import SchemaEngine.Host.Site
import SchemaEngine.Host.Turn
import SchemaEngine.Journal.Entry
import SchemaEngine.Journal.Filter
import SchemaEngine.Json.Reader
import SchemaEngine.Json.Value
import SchemaEngine.Json.Writer
import SchemaEngine.Memo.Cell
import SchemaEngine.Memo.Script
import SchemaEngine.Memo.Source
import SchemaEngine.Number.Binary64
import SchemaEngine.Number.Decimal
import SchemaEngine.Order.Ranking
import SchemaEngine.Order.Sorted
import SchemaEngine.Path.Basic
import SchemaEngine.Path.FileRef
import SchemaEngine.Pattern.Basic
import SchemaEngine.Pattern.Reader
import SchemaEngine.Proofs.Change.Accounts
import SchemaEngine.Proofs.Change.Batches
import SchemaEngine.Proofs.Change.Classification
import SchemaEngine.Proofs.Change.Coalescing
import SchemaEngine.Proofs.Change.FlushLatency
import SchemaEngine.Proofs.Change.Ledger
import SchemaEngine.Proofs.Change.LostFlushes
import SchemaEngine.Proofs.Change.Observation
import SchemaEngine.Proofs.Change.Polling
import SchemaEngine.Proofs.Change.Record
import SchemaEngine.Proofs.Change.Saving
import SchemaEngine.Proofs.Change.Service
import SchemaEngine.Proofs.Change.Silence
import SchemaEngine.Proofs.Change.Timeliness
import SchemaEngine.Proofs.Config.Acceptance
import SchemaEngine.Proofs.Config.Saving
import SchemaEngine.Proofs.Disk.Writing
import SchemaEngine.Proofs.Document.Dirtiness
import SchemaEngine.Proofs.Document.Flushing
import SchemaEngine.Proofs.Host.Minutes
import SchemaEngine.Proofs.Json.Reading
import SchemaEngine.Proofs.Json.RoundTrip
import SchemaEngine.Proofs.Memo.Failures
import SchemaEngine.Proofs.Memo.Moments
import SchemaEngine.Proofs.Memo.Productions
import SchemaEngine.Proofs.Memo.Sums
import SchemaEngine.Proofs.Order.Keyed
import SchemaEngine.Proofs.Order.Sorted
import SchemaEngine.Proofs.Path.Spelling
import SchemaEngine.Proofs.Schema.Assembled
import SchemaEngine.Proofs.Schema.Cancellation
import SchemaEngine.Proofs.Schema.Depth
import SchemaEngine.Proofs.Schema.Dialogue
import SchemaEngine.Proofs.Schema.Evaluation
import SchemaEngine.Proofs.Schema.Freshness
import SchemaEngine.Proofs.Schema.Keys
import SchemaEngine.Proofs.Schema.Maps
import SchemaEngine.Proofs.Schema.Outcomes
import SchemaEngine.Proofs.Schema.Publication
import SchemaEngine.Proofs.Schema.Registration
import SchemaEngine.Proofs.Schema.Roots
import SchemaEngine.Proofs.Schema.Sharing
import SchemaEngine.Proofs.Schema.Standing
import SchemaEngine.Proofs.Schema.Traffic
import SchemaEngine.Proofs.Schema.Transparency
import SchemaEngine.Proofs.Schema.Uncached
import SchemaEngine.Proofs.Schema.Upkeep
import SchemaEngine.Proofs.Scope.Canonical
import SchemaEngine.Proofs.Scope.Cells
import SchemaEngine.Proofs.Scope.Histories
import SchemaEngine.Proofs.Scope.Intersections
import SchemaEngine.Proofs.Scope.Lookups
import SchemaEngine.Proofs.Scope.Ordering
import SchemaEngine.Proofs.Scope.Precedence
import SchemaEngine.Proofs.Scope.Questions
import SchemaEngine.Proofs.Scope.Recomputation
import SchemaEngine.Proofs.Scope.Requests
import SchemaEngine.Proofs.Scope.Restrictions
import SchemaEngine.Proofs.Scope.Retention
import SchemaEngine.Proofs.Scope.Sameness
import SchemaEngine.Proofs.Scope.Stillness
import SchemaEngine.Proofs.Scope.Transparency
import SchemaEngine.Proofs.Scope.Uncached
import SchemaEngine.Proofs.Scope.Unions
import SchemaEngine.Proofs.Scope.Visibility
import SchemaEngine.Proofs.Text.Utf8
import SchemaEngine.Proofs.Workspace.Disposal
import SchemaEngine.Proofs.Workspace.Invalidation
import SchemaEngine.Proofs.Workspace.Lifetime
import SchemaEngine.Proofs.Workspace.Spelling
import SchemaEngine.Schema.Assembly
import SchemaEngine.Schema.Cache
import SchemaEngine.Schema.Info
import SchemaEngine.Schema.Registry
import SchemaEngine.Scope.Algebra
import SchemaEngine.Scope.Basic
import SchemaEngine.Scope.Cache
import SchemaEngine.Scope.Project
import SchemaEngine.Session.Run
import SchemaEngine.Session.Step
import SchemaEngine.Session.World
import SchemaEngine.Text.Escaped
import SchemaEngine.Text.Letters
import SchemaEngine.Text.Quoted
import SchemaEngine.Text.Shown
import SchemaEngine.Text.Utf8
import SchemaEngine.Workspace.Basic
import SchemaEngine.Workspace.Engine
