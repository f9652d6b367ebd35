import EntryStore.Query.Compile
import EntryStore.Proofs.Mapping
import EntryStore.Proofs.Query.Built
import EntryStore.Proofs.Sql.ReadBack

/-!
# The shape of a compiled query

`Query.shape` says which statement a query is made into, without the checks on the way:
fields stand for their columns.  A query compiles exactly if it is complete, and then into
the statement of its shape.
-/

namespace EntryStore

open Sql (Statement Prepared Term IsChain)
open Identifier (IsName)
open Outcome (Yields)

namespace Layout

variable {layout : Layout}

/-- All columns of a field; none if the field is not mapped. -/
def columnsOf (layout : Layout) (field : Field) : List String := (layout.columns field).getD []

/-- The first column of a field. -/
def primaryOf (layout : Layout) (field : Field) : String := (layout.columnsOf field).headD ""

/-- A field has columns. -/
def Maps (layout : Layout) (field : Field) : Prop := layout.columnsOf field ≠ []

/-- The terms of conditions, each on the first column of its field. -/
def terms (layout : Layout) (conditions : List Condition) : List Term :=
  conditions.map fun condition => ⟨condition.link, layout.primaryOf condition.field⟩

theorem primaryOf_mem_columnsOf {field : Field} (maps : layout.Maps field) :
    layout.primaryOf field ∈ layout.columnsOf field := by
  unfold primaryOf
  obtain ⟨first, others, columns⟩ := List.exists_cons_of_ne_nil maps
  rw [columns]
  exact List.mem_cons_self

theorem resolve_yields (layout : Layout) (field : Field) :
    Yields (layout.resolve field) (layout.Maps field) (layout.columnsOf field) := by
  intro names
  unfold resolve Maps columnsOf
  rcases layout.columns field with _ | _ | ⟨first, others⟩
  · simp
  · simp
  · simp [eq_comm]

theorem primary_yields (layout : Layout) (field : Field) :
    Yields (layout.primary field) (layout.Maps field) (layout.primaryOf field) := by
  intro name
  unfold primary Maps primaryOf columnsOf
  rcases layout.columns field with _ | _ | ⟨first, others⟩
  · simp
  · simp
  · simp [eq_comm]

theorem projection_yields (layout : Layout) (fields : List Field) :
    Yields (layout.projection fields) (∀ field ∈ fields, layout.Maps field)
      (fields.flatMap layout.columnsOf) :=
  (Yields.mapM layout.resolve_yields fields).bind_pure List.flatten

theorem targets_yields (layout : Layout) (assignments : List Assignment) :
    Yields (layout.targets assignments) (∀ assignment ∈ assignments, layout.Maps assignment.field)
      (assignments.map fun assignment => layout.primaryOf assignment.field) := by
  have target : ∀ assignment : Assignment, Yields (layout.primary assignment.field)
      (layout.Maps assignment.field) (layout.primaryOf assignment.field) :=
    fun assignment => layout.primary_yields assignment.field
  exact Yields.mapM target assignments

theorem clause_yields (layout : Layout) (conditions : List Condition) :
    Yields (layout.clause conditions) (∀ condition ∈ conditions, layout.Maps condition.field)
      (layout.terms conditions) := by
  have term : ∀ condition : Condition,
      Yields (do return (⟨condition.link, ← layout.primary condition.field⟩ : Term))
        (layout.Maps condition.field) ⟨condition.link, layout.primaryOf condition.field⟩ :=
    fun condition => (layout.primary_yields condition.field).bind_pure _
  exact Yields.mapM term conditions

end Layout

namespace Query

variable {layout : Layout}

/-- The statement of a query: fields stand for their columns. -/
def shape (layout : Layout) : Query → Statement
  | .act (.select fields) filter =>
      .select (fields.flatMap layout.columnsOf) layout.table (layout.terms filter.conditions)
  | .act (.update assignments) filter =>
      .update layout.table (assignments.map fun assignment => layout.primaryOf assignment.field)
        (layout.terms filter.conditions)
  | .act .delete filter => .delete layout.table (layout.terms filter.conditions)
  | .insert assignments =>
      .insert layout.table (assignments.map fun assignment => layout.primaryOf assignment.field)

/-- A query that asks for something. -/
def Asks : Query → Prop
  | .act (.select fields) _ => fields ≠ []
  | .act (.update assignments) _ => assignments ≠ []
  | .act .delete _ => True
  | .insert assignments => assignments ≠ []

/-- The fields that a query speaks of: what it selects or assigns, then those of its filter. -/
def mentioned (query : Query) : List Field :=
  query.fields ++ query.assignments.map (·.field) ++ query.conditions.map (·.field)

/-- A query that asks for something, and of which a layout maps every field. -/
def Complete (layout : Layout) (query : Query) : Prop :=
  query.Asks ∧ ∀ field ∈ query.mentioned, layout.Maps field

/-- Where every field is mapped, a query is complete if it asks for something. -/
theorem complete_of_maps (maps : ∀ field, layout.Maps field) {query : Query}
    (asks : query.Asks) : query.Complete layout :=
  ⟨asks, fun field _ => maps field⟩

/-- A query is made into the statement of its shape if it is complete, and into none
otherwise. -/
theorem statement_yields (query : Query) :
    Yields (query.statement layout) (query.Complete layout) (query.shape layout) := by
  have complete : query.Complete layout ↔ query.Asks ∧
      ((∀ field ∈ query.fields, layout.Maps field) ∧
        ∀ assignment ∈ query.assignments, layout.Maps assignment.field) ∧
      ∀ condition ∈ query.conditions, layout.Maps condition.field := by
    simp only [Complete, mentioned, List.forall_mem_append, List.forall_mem_map]
  cases query with
  | act action filter =>
      have compared := layout.clause_yields filter.conditions
      cases action with
      | select fields =>
          cases fields with
          | nil => exact Yields.error _ fun complete => complete.1 rfl
          | cons first others =>
              refine Yields.congr (Yields.mapError (Yields.bind
                (layout.projection_yields (first :: others)) (compared.bind_pure _)) _) ?_
              rw [complete]
              simp [Asks, Query.fields, Query.assignments, Query.conditions]
      | update assignments =>
          cases assignments with
          | nil => exact Yields.error _ fun complete => complete.1 rfl
          | cons first others =>
              refine Yields.congr (Yields.mapError (Yields.bind
                (layout.targets_yields (first :: others)) (compared.bind_pure _)) _) ?_
              rw [complete]
              simp [Asks, Query.fields, Query.assignments, Query.conditions]
      | delete =>
          refine Yields.congr (Yields.mapError (compared.bind_pure _) _) ?_
          rw [complete]
          simp [Asks, Query.fields, Query.assignments, Query.conditions]
  | insert assignments =>
      cases assignments with
      | nil => exact Yields.error _ fun complete => complete.1 rfl
      | cons first others =>
          refine Yields.congr (Yields.mapError
            ((layout.targets_yields (first :: others)).bind_pure _) _) ?_
          rw [complete]
          simp [Asks, Query.fields, Query.assignments, Query.conditions]

/-- What a query compiles into, if it does. -/
theorem compile_yields (query : Query) :
    Yields (query.compile layout) (query.Complete layout)
      (.of (query.shape layout) query.params) :=
  (statement_yields query).bind_pure _

/-! ## Names in the shape -/

theorem isChain_terms {conditions : List Condition} (linked : Linked conditions) :
    IsChain (layout.terms conditions) := by
  cases conditions with
  | nil => exact .nil
  | cons first others =>
      obtain ⟨opens, follow⟩ := linked
      have chain : IsChain (⟨.init, layout.primaryOf first.field⟩ :: layout.terms others) := by
        refine .cons ?_
        intro term member
        obtain ⟨condition, conditionMember, rfl⟩ := List.mem_map.mp member
        exact follow condition conditionMember
      rwa [← opens] at chain

variable {mapping : Mapping}

theorem isName_of_mem_columnsOf (sound : mapping.Sound) {field : Field} {name : String}
    (member : name ∈ mapping.layout.columnsOf field) : IsName name := by
  unfold Layout.columnsOf at member
  cases columns : mapping.layout.columns field with
  | none =>
      rw [columns] at member
      cases member
  | some names =>
      rw [columns] at member
      exact (sound.columns field names columns).2 name member

theorem isName_primaryOf (sound : mapping.Sound) {field : Field}
    (maps : mapping.layout.Maps field) : IsName (mapping.layout.primaryOf field) :=
  isName_of_mem_columnsOf sound (Layout.primaryOf_mem_columnsOf maps)

/-- A complete query has names in its shape only where the mapping has them. -/
theorem allNames_shape (sound : mapping.Sound) {query : Query}
    (complete : query.Complete mapping.layout) :
    (query.shape mapping.layout).AllNames IsName := by
  obtain ⟨_, mapped⟩ := complete
  simp only [mentioned, List.forall_mem_append, List.forall_mem_map] at mapped
  obtain ⟨⟨_, assigned⟩, compared⟩ := mapped
  have clauseNames : ∀ term ∈ mapping.layout.terms query.conditions, IsName term.column := by
    intro term member
    obtain ⟨condition, conditionMember, rfl⟩ := List.mem_map.mp member
    exact isName_primaryOf sound (compared condition conditionMember)
  have targetNames : ∀ column ∈ query.assignments.map fun assignment =>
      mapping.layout.primaryOf assignment.field, IsName column := by
    intro column member
    obtain ⟨assignment, assignmentMember, rfl⟩ := List.mem_map.mp member
    exact isName_primaryOf sound (assigned assignment assignmentMember)
  cases query with
  | act action filter =>
      cases action with
      | select fields =>
          refine ⟨?_, sound.table, clauseNames⟩
          intro column member
          obtain ⟨field, _, columnMember⟩ := List.mem_flatMap.mp member
          exact isName_of_mem_columnsOf sound columnMember
      | update assignments => exact ⟨sound.table, targetNames, clauseNames⟩
      | delete => exact ⟨sound.table, clauseNames⟩
  | insert assignments => exact ⟨sound.table, targetNames⟩

/-- The statement of a complete query whose conditions are linked can be read back. -/
theorem regular_shape {query : Query} (linked : Linked query.conditions)
    (complete : query.Complete layout) : (query.shape layout).Regular := by
  obtain ⟨asks, mapped⟩ := complete
  have chain : IsChain (layout.terms query.conditions) := isChain_terms linked
  cases query with
  | act action filter =>
      cases action with
      | select fields =>
          refine ⟨?_, chain⟩
          obtain ⟨field, others, rfl⟩ := List.exists_cons_of_ne_nil asks
          have maps : layout.Maps field := mapped field (by simp [mentioned, Query.fields])
          rw [List.flatMap_cons]
          exact List.append_ne_nil_of_left_ne_nil maps _
      | update assignments =>
          exact ⟨fun empty => asks (List.map_eq_nil_iff.mp empty), chain⟩
      | delete => exact chain
  | insert assignments => exact fun empty => asks (List.map_eq_nil_iff.mp empty)

/-- The statement of a complete query is read off its text. -/
theorem read?_shape (sound : mapping.Sound) {query : Query} (linked : Linked query.conditions)
    (complete : query.Complete mapping.layout) :
    Statement.read? (query.shape mapping.layout).print = some (query.shape mapping.layout) :=
  Statement.read?_print ((allNames_shape sound complete).imp fun _ => Sql.isWord_of_isName)
    (regular_shape linked complete)

end Query

end EntryStore
