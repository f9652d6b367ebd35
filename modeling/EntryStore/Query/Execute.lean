import EntryStore.Program
import EntryStore.Query.Compile

/-!
# Running queries

A query runs on the table of any layout: its statement is sent, and the reply is the result.  A
query that makes no statement fails as it does where it is compiled.
-/

namespace EntryStore.Query

/-- Runs a selection on a table. -/
def rowsIn (query : Query) (layout : Layout) : Program (List Row) :=
  match query.compile layout with
  | .ok prepared => .rowsOf prepared
  | .error defect => .fail defect.toError

/-- Runs a query that changes the rows of a table. -/
def affectedIn (query : Query) (layout : Layout) : Program Nat :=
  match query.compile layout with
  | .ok prepared => .countOf prepared
  | .error defect => .fail defect.toError

end EntryStore.Query
