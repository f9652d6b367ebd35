import EntryStore.Filter

/-!
# Queries

A query selects fields, updates fields, deletes entries or inserts an entry.  Selections,
updates and deletions act on the entries that pass a filter, and on all entries as long as
no filter is given.
-/

namespace EntryStore

/-- What is done with the entries that pass a filter. -/
inductive Action where
  | select (fields : List Field)
  | update (assignments : List Assignment)
  | delete
  deriving Repr

/-- A query. -/
inductive Query where
  /-- an action on the entries that pass a filter -/
  | act (action : Action) (filter : Filter)
  | insert (assignments : List Assignment)
  deriving Repr

namespace Query

/-- Selects fields of all entries, in the given order. -/
def select (fields : List Field) : Query := .act (.select fields) .empty

/-- Updates all entries; without assignments for the time being. -/
def update : Query := .act (.update []) .empty

/-- Deletes all entries. -/
def delete : Query := .act .delete .empty

/-- Inserts an entry; without assignments for the time being. -/
def insertion : Query := .insert []

/-- The selected fields. -/
def fields : Query → List Field
  | .act (.select fields) _ => fields
  | _ => []

/-- The assignments of an update or insertion, in the order in which they were given. -/
def assignments : Query → List Assignment
  | .act (.update assignments) _ => assignments
  | .insert assignments => assignments
  | _ => []

/-- The conditions that an entry has to pass. -/
def conditions : Query → List Condition
  | .act _ filter => filter.conditions
  | .insert _ => []

/-- A step in building a query. -/
inductive Step where
  /-- opens the filter -/
  | filter (field : Field) (value : Value)
  | and (field : Field) (value : Value)
  | or (field : Field) (value : Value)
  /-- adds an assignment to an update -/
  | set (field : Field) (value : Value)
  /-- adds an assignment to an insertion -/
  | value (field : Field) (value : Value)
  deriving Repr

namespace Step

/-- Opens the filter with an anchored pattern. -/
def filterMatch (field : Field) (pattern : String) (anchoring : Anchoring) : Step :=
  .filter field (.text (anchoring.anchor pattern))

/-- Links an anchored pattern by "and". -/
def andMatch (field : Field) (pattern : String) (anchoring : Anchoring) : Step :=
  .and field (.text (anchoring.anchor pattern))

/-- Links an anchored pattern by "or". -/
def orMatch (field : Field) (pattern : String) (anchoring : Anchoring) : Step :=
  .or field (.text (anchoring.anchor pattern))

end Step

/-- Applies a step.  There is no result where a query does not offer the step: only a query
without a filter can open one or be given assignments, only one with a filter can extend
it, and an insertion has no filter. -/
def step? (query : Query) (step : Step) : Option (Except Defect Query) :=
  match query, step with
  | .act action filter, .filter field value =>
      if filter.isEmpty then some ((Filter.start field value).map (.act action)) else none
  | .act action filter, .and field value =>
      if filter.isEmpty then none
      else some ((filter.push field value .and).map (.act action))
  | .act action filter, .or field value =>
      if filter.isEmpty then none
      else some ((filter.push field value .or).map (.act action))
  | .act (.update assignments) filter, .set field value =>
      if filter.isEmpty then
        some ((Assignment.of field value).map fun assignment =>
          .act (.update (assignments ++ [assignment])) filter)
      else none
  | .insert assignments, .value field value =>
      some ((Assignment.of field value).map fun assignment => .insert (assignments ++ [assignment]))
  | _, _ => none

/-- Selects the given fields of the entries in which one field matches a pattern. -/
def selectWhere (fields : List Field) (field : Field) (pattern : String) (anchoring : Anchoring) :
    Except Defect Query := do
  return .act (.select fields) (← Filter.start field (.text (anchoring.anchor pattern)))

/-- The query that finds the entries in which one field matches a pattern. -/
def find (field : Field) (pattern : String) (anchoring : Anchoring) : Except Defect Query :=
  selectWhere Field.all field pattern anchoring

end Query

end EntryStore
