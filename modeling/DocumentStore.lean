import DocumentStore.Mapping
import DocumentStore.Pipeline.Stage
import DocumentStore.Scenario
import DocumentStore.Transaction.Script
import DocumentStore.Proofs.Filter.Positions
import DocumentStore.Proofs.Store.Staging
import DocumentStore.Proofs.Store.Live
import DocumentStore.Proofs.Store.Effects
import DocumentStore.Proofs.Store.Serializability
import DocumentStore.Proofs.Process.Run
import DocumentStore.Proofs.Process.Confined
import DocumentStore.Proofs.Process.Transactions
import DocumentStore.Proofs.Service.Confined
import DocumentStore.Proofs.Service.Deletion
import DocumentStore.Proofs.Filter.References
import DocumentStore.Proofs.Service.Run
import DocumentStore.Proofs.Catalog.Levels
import DocumentStore.Proofs.Catalog.Cascade
import DocumentStore.Proofs.Filter.Meaning
import DocumentStore.Proofs.Transaction.Conversation
import DocumentStore.Proofs.Transaction.Protocol
import DocumentStore.Proofs.Store.Views
import DocumentStore.Proofs.Catalog.Grounded
import DocumentStore.Proofs.Process.Invariant
import DocumentStore.Proofs.Record
import DocumentStore.Proofs.Catalog.Written
import DocumentStore.Proofs.Catalog.Integrity
import DocumentStore.Proofs.Store.History
import DocumentStore.Proofs.Store.Conflicts
import DocumentStore.Proofs.Path
import DocumentStore.Proofs.Store.Isolation
import DocumentStore.Proofs.Update.Entries
import DocumentStore.Proofs.Update.Identifier
import DocumentStore.Proofs.Store.Identity
import DocumentStore.Proofs.Double
import DocumentStore.Proofs.Key
import DocumentStore.Proofs.Store.Spared
import DocumentStore.Proofs.Process.Ending
import DocumentStore.Proofs.Service.Trace
import DocumentStore.Proofs.Service.Rules
import DocumentStore.Proofs.Service.Validation
import DocumentStore.Proofs.Service.Nesting
import DocumentStore.Proofs.Service.Order
import DocumentStore.Proofs.Service.Depth
import DocumentStore.Proofs.Service.Addressing
import DocumentStore.Proofs.Pipeline.Search
import DocumentStore.Proofs.Store.LeftOver
import DocumentStore.Proofs.Store.Failure
import DocumentStore.Proofs.Service.Insertion
import DocumentStore.Proofs.Store.Deletion
import DocumentStore.Proofs.Store.Unmoved
import DocumentStore.Proofs.Service.Passive
import DocumentStore.Proofs.Store.Accounting
import DocumentStore.Proofs.Store.Insertion
import DocumentStore.Proofs.Store.Writes
import DocumentStore.Proofs.Filter.Comparisons
import DocumentStore.Proofs.Filter.Totality
import DocumentStore.Proofs.Filter.Elements
import DocumentStore.Proofs.Filter.Forecast
import DocumentStore.Proofs.Store.Refusal
import DocumentStore.Proofs.Value.Order
import DocumentStore.Proofs.Query.Sort
import DocumentStore.Proofs.Service.Sorting
import DocumentStore.Proofs.Pipeline.Expression
import DocumentStore.Proofs.Pipeline.Groups
import DocumentStore.Proofs.Path.Frame
import DocumentStore.Proofs.Update.Repetition
import DocumentStore.Proofs.Pipeline.Shares
import DocumentStore.Proofs.Pipeline.Sums
import DocumentStore.Proofs.Pipeline.Extremes
import DocumentStore.Proofs.Pipeline.Rearranged
import DocumentStore.Proofs.Pipeline.Simultaneous
import DocumentStore.Proofs.Service.Registration
import DocumentStore.Proofs.Path.Way
import DocumentStore.Proofs.Update.Increments
import DocumentStore.Proofs.Update.Removal
import DocumentStore.Proofs.Record.Revision
import DocumentStore.Proofs.Service.Stored
import DocumentStore.Proofs.Catalog.Models
import DocumentStore.Proofs.Path.Writing
import DocumentStore.Proofs.Store.Indexes
import DocumentStore.Proofs.Transaction.Backoff
import DocumentStore.Proofs.Value.Preorder
import DocumentStore.Proofs.Value.Members
import DocumentStore.Proofs.Filter.Equality
import DocumentStore.Proofs.Error
