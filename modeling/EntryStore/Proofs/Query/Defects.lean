import EntryStore.Query.Execute
import EntryStore.Proofs.Exchange
import EntryStore.Proofs.Query.Shape
import EntryStore.Store.Basic

/-!
# Why queries fail

A query fails before it is sent for one of two reasons: it asks for nothing, or it speaks of a
field that the table does not map.  The first reason comes first, whatever the table, and of
several missing fields the first one is reported: what is selected or assigned comes before the
filter.  Where neither reason holds, exactly the compiled statement is sent.
-/

namespace EntryStore

open Outcome (Reports)
open Sql (Prepared)

namespace Layout

variable {layout : Layout}

/-- The fault for a field that is mapped to no column. -/
def missing? (layout : Layout) (field : Field) : Option Unmapped :=
  match layout.columns field with
  | some (_ :: _) => none
  | _ => some ⟨field, layout.table⟩

theorem missing?_eq_none_iff {field : Field} :
    layout.missing? field = none ↔ layout.Maps field := by
  unfold missing? Maps columnsOf
  rcases layout.columns field with _ | _ | ⟨first, others⟩ <;> simp

theorem missing?_eq_some_iff {field : Field} {missing : Unmapped} :
    layout.missing? field = some missing ↔
      ¬ layout.Maps field ∧ missing = ⟨field, layout.table⟩ := by
  unfold missing? Maps columnsOf
  rcases layout.columns field with _ | _ | ⟨first, others⟩ <;> simp [eq_comm]

theorem resolve_reports (layout : Layout) (field : Field) :
    Reports (layout.resolve field) (layout.missing? field) := by
  unfold resolve missing?
  rcases layout.columns field with _ | _ | ⟨first, others⟩
  · exact .error _
  · exact .error _
  · exact .ok _

theorem primary_reports (layout : Layout) (field : Field) :
    Reports (layout.primary field) (layout.missing? field) := by
  unfold primary missing?
  rcases layout.columns field with _ | _ | ⟨first, others⟩
  · exact .error _
  · exact .error _
  · exact .ok _

theorem projection_reports (layout : Layout) (fields : List Field) :
    Reports (layout.projection fields) (fields.findSome? layout.missing?) :=
  (Reports.mapM layout.resolve_reports fields).bind_pure List.flatten

theorem targets_reports (layout : Layout) (assignments : List Assignment) :
    Reports (layout.targets assignments)
      ((assignments.map (·.field)).findSome? layout.missing?) := by
  rw [List.findSome?_map]
  exact Reports.mapM (fun assignment => layout.primary_reports assignment.field) assignments

theorem clause_reports (layout : Layout) (conditions : List Condition) :
    Reports (layout.clause conditions) ((conditions.map (·.field)).findSome? layout.missing?) := by
  rw [List.findSome?_map]
  exact Reports.mapM
    (fun condition => (layout.primary_reports condition.field).bind_pure _) conditions

end Layout

namespace Query

variable {layout : Layout} {query : Query}

/-- The defect of a query that asks for nothing. -/
def nothing? : Query → Option Defect
  | .act (.select []) _ => some .nothingToSelect
  | .act (.update []) _ => some .nothingToUpdate
  | .insert [] => some .nothingToInsert
  | _ => none

/-- The defect of a query that speaks of a field which a table does not map. -/
def missing? (layout : Layout) (query : Query) : Option Defect :=
  (query.mentioned.findSome? layout.missing?).map .unmapped

theorem nothing?_eq_none_iff : query.nothing? = none ↔ query.Asks := by
  cases query with
  | act action filter =>
      cases action with
      | select fields => cases fields <;> simp [nothing?, Asks]
      | update assignments => cases assignments <;> simp [nothing?, Asks]
      | delete => simp [nothing?, Asks]
  | insert assignments => cases assignments <;> simp [nothing?, Asks]

/-- That a query asks for nothing is reported in words of its own. -/
theorem exists_reason_of_nothing? {defect : Defect} (nothing : query.nothing? = some defect) :
    ∃ reason, defect.toError = .query reason := by
  unfold nothing? at nothing
  split at nothing
  · cases nothing
    exact ⟨_, rfl⟩
  · cases nothing
    exact ⟨_, rfl⟩
  · cases nothing
    exact ⟨_, rfl⟩
  · cases nothing

theorem mentioned_select (fields : List Field) (filter : Filter) :
    (act (.select fields) filter).mentioned = fields ++ filter.conditions.map (·.field) := by
  simp [mentioned, Query.fields, assignments, conditions]

theorem mentioned_insert (assignments : List Assignment) :
    (insert assignments).mentioned = assignments.map (·.field) := by
  simp [mentioned, fields, Query.assignments, conditions]

/-- A query is made into a statement unless it asks for nothing or speaks of a field that is not
mapped; the former comes first. -/
theorem statement_reports (layout : Layout) (query : Query) :
    Reports (query.statement layout) (query.nothing?.or (query.missing? layout)) := by
  cases query with
  | act action filter =>
      have compared := layout.clause_reports filter.conditions
      cases action with
      | select fields =>
          cases fields with
          | nil => exact .error _
          | cons first others =>
              have shown := layout.projection_reports (first :: others)
              rw [missing?, mentioned_select, List.findSome?_append]
              exact (shown.bind fun _ _ => compared.bind_pure _).mapError _
      | update assignments =>
          cases assignments with
          | nil => exact .error _
          | cons first others =>
              have written := layout.targets_reports (first :: others)
              rw [missing?, mentioned, List.findSome?_append]
              exact (written.bind fun _ _ => compared.bind_pure _).mapError _
      | delete => exact (compared.bind_pure _).mapError _
  | insert assignments =>
      cases assignments with
      | nil => exact .error _
      | cons first others =>
          have written := layout.targets_reports (first :: others)
          rw [missing?, mentioned_insert]
          exact (written.bind_pure _).mapError _

theorem compile_reports (layout : Layout) (query : Query) :
    Reports (query.compile layout) (query.nothing?.or (query.missing? layout)) :=
  (statement_reports layout query).bind_pure _

/-! ## What callers learn -/

/-- A query fails with an error where it is made into a statement. -/
def Fails (query : Query) (layout : Layout) (error : Error) : Prop :=
  ∃ defect, query.compile layout = .error defect ∧ defect.toError = error

/-- A query fails in its own words exactly if it asks for nothing. -/
theorem fails_query_iff : (∃ reason, query.Fails layout (.query reason)) ↔ ¬ query.Asks := by
  rw [← nothing?_eq_none_iff]
  constructor
  · rintro ⟨reason, defect, failed, reported⟩ asks
    have foreseen := (compile_reports layout query defect).mp failed
    rw [asks, Option.none_or, missing?, Option.map_eq_some_iff] at foreseen
    obtain ⟨missing, _, rfl⟩ := foreseen
    cases reported
  · intro refused
    obtain ⟨defect, nothing⟩ := Option.ne_none_iff_exists'.mp refused
    obtain ⟨reason, reported⟩ := exists_reason_of_nothing? nothing
    refine ⟨reason, defect, (compile_reports layout query defect).mpr ?_, reported⟩
    rw [nothing, Option.some_or]

/-- A query that asks for something fails with the first field that is not mapped. -/
theorem fails_unmapped_iff {column table : String} :
    query.Fails layout (.unmapped column table) ↔
      query.Asks ∧ table = layout.table ∧
        ∃ earlier field later, query.mentioned = earlier ++ field :: later ∧
          (∀ other ∈ earlier, layout.Maps other) ∧ ¬ layout.Maps field ∧
          column = field.name := by
  constructor
  · rintro ⟨defect, failed, reported⟩
    have foreseen := (compile_reports layout query defect).mp failed
    cases nothing : query.nothing? with
    | some other =>
        rw [nothing, Option.some_or] at foreseen
        cases foreseen
        obtain ⟨reason, words⟩ := exists_reason_of_nothing? nothing
        cases words.symm.trans reported
    | none =>
        rw [nothing, Option.none_or, missing?, Option.map_eq_some_iff] at foreseen
        obtain ⟨missing, found, rfl⟩ := foreseen
        obtain ⟨earlier, field, later, split, absent, mapped⟩ :=
          List.findSome?_eq_some_iff.mp found
        obtain ⟨unmapped, rfl⟩ := Layout.missing?_eq_some_iff.mp absent
        cases reported
        exact ⟨nothing?_eq_none_iff.mp nothing, rfl, earlier, field, later, split,
          fun other member => Layout.missing?_eq_none_iff.mp (mapped other member), unmapped, rfl⟩
  · rintro ⟨asks, rfl, earlier, field, later, split, mapped, unmapped, rfl⟩
    have found : query.mentioned.findSome? layout.missing? = some ⟨field, layout.table⟩ :=
      List.findSome?_eq_some_iff.mpr ⟨earlier, field, later, split,
        Layout.missing?_eq_some_iff.mpr ⟨unmapped, rfl⟩,
        fun other member => Layout.missing?_eq_none_iff.mpr (mapped other member)⟩
    refine ⟨.unmapped ⟨field, layout.table⟩, (compile_reports layout query _).mpr ?_, rfl⟩
    rw [nothing?_eq_none_iff.mpr asks, Option.none_or, missing?, found, Option.map_some]

/-- Whoever runs a query: if it is refused, it fails without sending anything, and otherwise it
sends the statement that it compiles into, once, and ends with the reply.  So do the requests of
a store. -/
structure RunsAsCompiled (query : Query) (layout : Layout) : Prop where
  refused : ∀ {error : Error}, query.Fails layout error → ∀ {σ : Type} (executor : Executor σ)
    (state : σ),
    (query.rowsIn layout).run executor state = (.error error, state) ∧
      (query.rowsIn layout).log executor state = [] ∧
      (query.affectedIn layout).run executor state = (.error error, state) ∧
      (query.affectedIn layout).log executor state = []
  sent : ∀ {prepared : Prepared}, query.compile layout = .ok prepared → ∀ {σ : Type}
    (executor : Executor σ) (state : σ),
    (query.rowsIn layout).run executor state = executor.fetch prepared state ∧
      (query.rowsIn layout).log executor state =
        [.fetched prepared (executor.fetch prepared state).1] ∧
      (query.affectedIn layout).run executor state = executor.execute prepared state ∧
      (query.affectedIn layout).log executor state =
        [.executed prepared (executor.execute prepared state).1]
  stored : ∀ store : Store, store.mapping.layout = layout →
    store.rows (.ok query) = query.rowsIn layout ∧
      store.affected (.ok query) = query.affectedIn layout

theorem runsAsCompiled (query : Query) (layout : Layout) : query.RunsAsCompiled layout where
  refused := by
    rintro error ⟨defect, failed, rfl⟩ σ executor state
    rw [rowsIn, affectedIn, failed]
    exact ⟨rfl, rfl, rfl, rfl⟩
  sent := by
    intro prepared compiled σ executor state
    rw [rowsIn, affectedIn, compiled]
    exact ⟨Program.run_rowsOf _ _ _, Program.log_rowsOf, Program.run_countOf _ _ _,
      Program.log_countOf⟩
  stored := by
    rintro store rfl
    have prepared : store.prepare (.ok query) =
        (query.compile store.mapping.layout).mapError Defect.toError := rfl
    rw [Store.rows, Store.affected, rowsIn, affectedIn, prepared]
    cases query.compile store.mapping.layout <;> exact ⟨rfl, rfl⟩

/-- A query that asks for nothing is refused as such, whatever the table; another one is refused
for the first field that is not mapped, if there is one, and compiles otherwise.  What is refused
is not sent, and what compiles is sent as it is. -/
theorem compile_reports_first_defect (layout : Layout) (query : Query) :
    ((∃ reason, query.Fails layout (.query reason)) ↔ ¬ query.Asks) ∧
      (∀ column table, query.Fails layout (.unmapped column table) ↔
        query.Asks ∧ table = layout.table ∧
          ∃ earlier field later, query.mentioned = earlier ++ field :: later ∧
            (∀ other ∈ earlier, layout.Maps other) ∧ ¬ layout.Maps field ∧
            column = field.name) ∧
      ((∃ prepared, query.compile layout = .ok prepared) ↔
        query.Asks ∧ ∀ field ∈ query.mentioned, layout.Maps field) ∧
      query.RunsAsCompiled layout := by
  refine ⟨fails_query_iff, fun column table => fails_unmapped_iff, ?_, runsAsCompiled query layout⟩
  constructor
  · rintro ⟨prepared, compiled⟩
    exact ((compile_yields query).of_ok compiled).1
  · intro complete
    exact ⟨_, (compile_yields query).eq_ok complete⟩

end Query

end EntryStore
