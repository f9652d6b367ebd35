import EntryStore.Home
import EntryStore.Main
import EntryStore.Query.Execute
import EntryStore.Proofs.Mapping
import EntryStore.Proofs.Regex.Literal
import EntryStore.Proofs.Sql.ReadBack
import EntryStore.Proofs.Sql.Marks
import EntryStore.Proofs.Query.Built
import EntryStore.Proofs.Query.Shape
import EntryStore.Proofs.Query.ReadBack
import EntryStore.Proofs.Query.Alignment
import EntryStore.Proofs.Sql.Execution
import EntryStore.Proofs.Sql.Truth
import EntryStore.Proofs.Query.Execution
import EntryStore.Proofs.Sql.Columns
import EntryStore.Proofs.Sql.Rows
import EntryStore.Proofs.Store.Bindings
import EntryStore.Proofs.Store.Rows
import EntryStore.Proofs.Store.Schema
import EntryStore.Proofs.Store.Calls
import EntryStore.Proofs.Store.Contents
import EntryStore.Proofs.Store.Image
import EntryStore.Proofs.Store.Refinement
import EntryStore.Proofs.Query.Effects
import EntryStore.Proofs.Json.Strings
import EntryStore.Proofs.Json.Number
import EntryStore.Proofs.Json.Document
import EntryStore.Proofs.Json.Typed
import EntryStore.Proofs.Store.Requests
import EntryStore.Proofs.Store.RoundTrip
import EntryStore.Proofs.Interleaving
import EntryStore.Proofs.Store.Clients
import EntryStore.Proofs.Exchange
import EntryStore.Proofs.Query.Independence
import EntryStore.Proofs.Store.Errors
import EntryStore.Proofs.Sql.Edits
import EntryStore.Proofs.Store.Atomicity
import EntryStore.Proofs.History
import EntryStore.Proofs.Store.Linearization
import EntryStore.Proofs.Query.Methods
import EntryStore.Proofs.Command.Explanation
import EntryStore.Proofs.Mapping.Stability
import EntryStore.Proofs.Store.Usability
import EntryStore.Proofs.Sql.Refusals
import EntryStore.Proofs.Store.Definitions
import EntryStore.Proofs.Store.Integrity
import EntryStore.Proofs.Store.Frames
import EntryStore.Proofs.Store.PlainText
import EntryStore.Proofs.Query.Defects
import EntryStore.Proofs.Store.Cells
import EntryStore.Proofs.Mapping.Reading
import EntryStore.Proofs.Regex.Anchors
import EntryStore.Proofs.Identifier.Acceptance
import EntryStore.Proofs.Mapping.Refusals
import EntryStore.Proofs.Json.Canonical
import EntryStore.Proofs.Store.Untagged
import EntryStore.Proofs.Double.Rounding
import EntryStore.Proofs.Double.Shortest
import EntryStore.Proofs.Json.Scaling
import EntryStore.Proofs.Json.Float
import EntryStore.Proofs.Store.Numbers
import EntryStore.Proofs.Sql.Fetching
import EntryStore.Proofs.Command.Persistence
import EntryStore.Proofs.Sql.Failures
