import EntryStore.Query.Basic
import EntryStore.Sql.Statement

/-!
# From queries to statements

A query and the layout of a table make a statement: fields become columns, values become
parameters.  Parameters are in the order of the placeholders: assignments first, then
conditions.
-/

namespace EntryStore

open Sql (Statement Prepared)

namespace Layout

/-- The columns that a selection of fields shows: all those of each field, in order. -/
def projection (layout : Layout) (fields : List Field) : Except Unmapped (List String) := do
  return (← fields.mapM layout.resolve).flatten

/-- The columns that assignments write. -/
def targets (layout : Layout) (assignments : List Assignment) : Except Unmapped (List String) :=
  assignments.mapM fun assignment => layout.primary assignment.field

/-- The conditions of a filter on columns. -/
def clause (layout : Layout) (conditions : List Condition) : Except Unmapped (List Sql.Term) :=
  conditions.mapM fun condition => do
    return ⟨condition.link, ← layout.primary condition.field⟩

end Layout

namespace Query

/-- The statement of a query. -/
def statement (query : Query) (layout : Layout) : Except Defect Statement :=
  match query with
  | .act (.select []) _ => .error .nothingToSelect
  | .act (.update []) _ => .error .nothingToUpdate
  | .insert [] => .error .nothingToInsert
  | .act (.select fields) filter => Except.mapError .unmapped do
      let columns ← layout.projection fields
      let clause ← layout.clause filter.conditions
      return .select columns layout.table clause
  | .act (.update assignments) filter => Except.mapError .unmapped do
      let columns ← layout.targets assignments
      let clause ← layout.clause filter.conditions
      return .update layout.table columns clause
  | .act .delete filter => Except.mapError .unmapped do
      let clause ← layout.clause filter.conditions
      return .delete layout.table clause
  | .insert assignments => Except.mapError .unmapped do
      let columns ← layout.targets assignments
      return .insert layout.table columns

/-- The parameters of a query's statement. -/
def params (query : Query) : List String :=
  query.assignments.map (·.value.parameter) ++ query.conditions.map (·.value.parameter)

/-- Makes a query into a statement that can be sent. -/
def compile (query : Query) (layout : Layout) : Except Defect Prepared := do
  return .of (← query.statement layout) query.params

end Query

end EntryStore
