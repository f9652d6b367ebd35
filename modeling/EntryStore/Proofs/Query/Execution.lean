import EntryStore.Proofs.Query.Shape
import EntryStore.Proofs.Regex.Literal
import EntryStore.Proofs.Sql.Execution
import EntryStore.Proofs.Sql.Truth

/-!
# What queries do to a table

A filter admits an entry if all conditions of one of its runs accept their cells, where a new
run begins at every "or".  The database picks the rows that the filter admits, whatever is
done with them then.
-/

namespace EntryStore

open Sql (PatternMeaning Table Database Connection Prepared)
open Identifier (NormalForm)

/-- Whether a condition accepts a cell.  No condition accepts a missing cell. -/
def Condition.accepts (meaning : PatternMeaning) (condition : Condition)
    (cell : Option String) : Bool :=
  match cell, meaning condition.value.parameter with
  | some text, some matched => matched text
  | _, _ => false

namespace Filter

/-- The longest runs of conditions that are linked by "and" alone. -/
def runs (filter : Filter) : List (List Condition) := Sql.runs Condition.link filter.conditions

/-- Whether a filter admits an entry, given by its cells: all conditions of some run accept
theirs.  The filter without conditions admits every entry. -/
def admits (meaning : PatternMeaning) (filter : Filter) (cells : Field → Option String) : Bool :=
  filter.isEmpty ||
    filter.runs.any fun run =>
      run.all fun condition => condition.accepts meaning (cells condition.field)

end Filter

namespace Layout

/-- The cells of the first columns in a row. -/
def cells (layout : Layout) (table : Table) (row : Row) (field : Field) : Option String :=
  table.cell (layout.primaryOf field) row

variable {layout : Layout} {table : Table} {meaning : PatternMeaning} {filter : Filter}

/-- Where assignments write, and what. -/
def targetCells (layout : Layout) (table : Table) (assignments : List Assignment) :
    List (Nat × String) :=
  assignments.map fun assignment =>
    (table.positionOf (layout.primaryOf assignment.field), assignment.value.parameter)

theorem zip_targets (assignments : List Assignment) :
    ((assignments.map fun assignment => layout.primaryOf assignment.field).map
        table.positionOf).zip (assignments.map (·.value.parameter)) =
      layout.targetCells table assignments := by
  rw [List.map_map, List.zip_map']
  rfl

/-- A condition with its column resolved and its parameter bound. -/
def leaf (layout : Layout) (table : Table) (condition : Condition) : Sql.Condition.Leaf :=
  (condition.link, table.positionOf (layout.primaryOf condition.field),
    condition.value.parameter)

theorem truth_leaf (condition : Condition) (row : Row) :
    (Sql.Condition.test (layout.leaf table condition)).truth meaning row = some true ↔
      condition.accepts meaning (layout.cells table row condition.field) = true := by
  have compared : (Sql.Condition.test (layout.leaf table condition)).truth meaning row =
      (layout.cells table row condition.field).bind fun cell =>
        (meaning condition.value.parameter).bind fun matched => some (matched cell) := rfl
  rw [compared]
  unfold Condition.accepts
  cases layout.cells table row condition.field with
  | none => simp
  | some text =>
      cases meaning condition.value.parameter with
      | none => simp
      | some matched => simp

/-- The database reads the conditions of a filter as the leaves of a clause. -/
theorem condition_terms
    (has : ∀ condition ∈ filter.conditions, table.Has (layout.primaryOf condition.field)) :
    table.condition (layout.terms filter.conditions)
        (filter.conditions.map (·.value.parameter)) =
      .ok (Sql.Condition.ofLeaves (filter.conditions.map (layout.leaf table))) := by
  unfold Table.condition terms
  rw [List.zip_map', List.mapM_map, Outcome.mapM_eq_ok]
  · rfl
  · intro condition member
    change (table.position (layout.primaryOf condition.field) >>= _) = _
    rw [Table.position_eq_ok (has condition member)]
    rfl

/-- The clause of a filter is true of the rows that the filter admits, and of no others. -/
theorem truth_terms (row : Row) :
    ((Sql.Condition.ofLeaves (filter.conditions.map (layout.leaf table))).all fun condition =>
        condition.truth meaning row == some true) =
      filter.admits meaning (layout.cells table row) := by
  unfold Filter.admits Filter.isEmpty Filter.runs
  cases made : Sql.Condition.ofLeaves (filter.conditions.map (layout.leaf table)) with
  | none =>
      cases conditions : filter.conditions with
      | nil => rfl
      | cons first others =>
          rw [conditions] at made
          cases made
  | some condition =>
      have nonempty : filter.conditions.isEmpty = false := by
        cases conditions : filter.conditions with
        | nil =>
            rw [conditions] at made
            cases made
        | cons first others => rfl
      rw [Option.all_some, nonempty, Bool.false_or, Bool.eq_iff_iff, beq_iff_eq,
        Sql.Condition.truth_ofLeaves made, Sql.runs_map]
      simp only [List.mem_map, exists_exists_and_eq_and, forall_exists_index, and_imp,
        forall_apply_eq_imp_iff₂, truth_leaf, List.any_eq_true, List.all_eq_true]
      rfl

/-- The database picks the rows that a filter admits.  Only with a row are patterns looked at. -/
theorem picks_terms
    (has : ∀ condition ∈ filter.conditions, table.Has (layout.primaryOf condition.field))
    (wellFormed : ∀ row ∈ table.rows, ∀ condition ∈ filter.conditions,
      (meaning condition.value.parameter).isSome = true) :
    table.Picks meaning (layout.terms filter.conditions)
      (filter.conditions.map (·.value.parameter))
      fun row => filter.admits meaning (layout.cells table row) := by
  refine Table.picks_of_admits (condition_terms has) ?_
  intro row member
  rw [← truth_terms]
  cases made : Sql.Condition.ofLeaves (filter.conditions.map (layout.leaf table)) with
  | none => rfl
  | some condition =>
      have understood : condition.WellFormed meaning := by
        refine Sql.Condition.wellFormed_ofLeaves made ?_
        rw [List.forall_mem_map]
        exact wellFormed row member
      simp only [Table.admits, Sql.Condition.holds_eq_truth understood, Option.all_some]

end Layout

namespace Query

variable {normalize : String → String} {mapping : Mapping} {meaning : PatternMeaning}
variable {database : Database} {table : Table}

theorem mem_mentioned_of_mem_fields {query : Query} {field : Field}
    (member : field ∈ query.fields) : field ∈ query.mentioned :=
  List.mem_append_left _ (List.mem_append_left _ member)

theorem mem_mentioned_of_mem_assignments {query : Query} {assignment : Assignment}
    (member : assignment ∈ query.assignments) : assignment.field ∈ query.mentioned :=
  List.mem_append_left _ (List.mem_append_right _ (List.mem_map_of_mem member))

theorem mem_mentioned_of_mem_conditions {query : Query} {condition : Condition}
    (member : condition ∈ query.conditions) : condition.field ∈ query.mentioned :=
  List.mem_append_right _ (List.mem_map_of_mem member)

/-- A complete query and a table that has all columns of the fields it mentions. -/
structure Ready (meaning : PatternMeaning) (mapping : Mapping) (database : Database)
    (table : Table) (query : Query) : Prop where
  sound : mapping.Sound
  linked : Linked query.conditions
  complete : query.Complete mapping.layout
  found : database.find? mapping.table = some table
  has : ∀ field ∈ query.mentioned, ∀ column ∈ mapping.layout.columnsOf field, table.Has column
  wellFormed : ∀ row ∈ table.rows, ∀ condition ∈ query.conditions,
    (meaning condition.value.parameter).isSome = true

namespace Ready

theorem has_primaryOf {query : Query} (ready : Ready meaning mapping database table query)
    {field : Field} (member : field ∈ query.mentioned) :
    table.Has (mapping.layout.primaryOf field) :=
  ready.has field member _ (Layout.primaryOf_mem_columnsOf (ready.complete.2 field member))

theorem has_condition {query : Query} (ready : Ready meaning mapping database table query) :
    ∀ condition ∈ query.conditions, table.Has (mapping.layout.primaryOf condition.field) :=
  fun _ member => ready.has_primaryOf (mem_mentioned_of_mem_conditions member)

/-- The columns that are assigned are there. -/
theorem has_target {query : Query} (ready : Ready meaning mapping database table query) :
    ∀ column ∈ query.assignments.map fun assignment => mapping.layout.primaryOf assignment.field,
      table.Has column := by
  intro column member
  obtain ⟨assignment, assignmentMember, rfl⟩ := List.mem_map.mp member
  exact ready.has_primaryOf (mem_mentioned_of_mem_assignments assignmentMember)

theorem words {query : Query} (ready : Ready meaning mapping database table query) :
    (query.shape mapping.layout).AllNames Sql.IsWord :=
  (allNames_shape ready.sound ready.complete).imp fun _ => Sql.isWord_of_isName

theorem regular {query : Query} (ready : Ready meaning mapping database table query) :
    (query.shape mapping.layout).Regular := regular_shape ready.linked ready.complete

/-- A selection answers with the rows that its filter admits, in their order. -/
theorem fetch {fields : List Field} {filter : Filter}
    (ready : Ready meaning mapping database table (.act (.select fields) filter)) :
    (Connection.executor meaning).fetch
        (.of (shape mapping.layout (.act (.select fields) filter))
          (params (.act (.select fields) filter))) (Connection.of database) =
      (.ok ((table.rows.filter fun row =>
          filter.admits meaning (mapping.layout.cells table row)).map
        (table.project (fields.flatMap mapping.layout.columnsOf))), Connection.of database) := by
  have projected : ∀ column ∈ fields.flatMap mapping.layout.columnsOf, table.Has column := by
    intro column member
    obtain ⟨field, fieldMember, columnMember⟩ := List.mem_flatMap.mp member
    exact ready.has field (mem_mentioned_of_mem_fields fieldMember) column columnMember
  have executed := Database.execute_select ready.found projected
    (Layout.picks_terms ready.has_condition ready.wellFormed)
  refine Connection.fetch_of ready.words ready.regular executed ?_
  intro row member
  obtain ⟨origin, _, rfl⟩ := List.mem_map.mp member
  exact List.length_map _

/-- A deletion removes the rows that its filter admits and counts them. -/
theorem execute_delete {filter : Filter}
    (ready : Ready meaning mapping database table (.act .delete filter)) :
    (Connection.executor meaning).execute
        (.of (shape mapping.layout (.act .delete filter)) (params (.act .delete filter)))
        (Connection.of database) =
      (.ok (table.rows.countP fun row =>
          filter.admits meaning (mapping.layout.cells table row)),
        Connection.of (database.replace { table with
          rows := table.rows.filter fun row =>
            !filter.admits meaning (mapping.layout.cells table row) })) := by
  have executed := Database.execute_delete ready.found
    (Layout.picks_terms ready.has_condition ready.wellFormed)
  exact Connection.execute_of ready.words ready.regular executed

/-- An update overwrites the assigned cells of the rows that its filter admits and counts
them. -/
theorem execute_update {assignments : List Assignment} {filter : Filter}
    (ready : Ready meaning mapping database table (.act (.update assignments) filter))
    (plain : ∀ assignment ∈ assignments,
      Sql.isQualified (mapping.layout.primaryOf assignment.field) = false) :
    (Connection.executor meaning).execute
        (.of (shape mapping.layout (.act (.update assignments) filter))
          (params (.act (.update assignments) filter))) (Connection.of database) =
      (.ok (table.rows.countP fun row =>
          filter.admits meaning (mapping.layout.cells table row)),
        Connection.of (database.replace { table with
          rows := table.rows.map fun row =>
            if filter.admits meaning (mapping.layout.cells table row) then
              Table.overwrite row (mapping.layout.targetCells table assignments)
            else row })) := by
  have bound : (assignments.map (·.value.parameter)).length =
      (assignments.map fun assignment => mapping.layout.primaryOf assignment.field).length := by
    rw [List.length_map, List.length_map]
  have executed := Database.execute_update (List.forall_mem_map.mpr plain) ready.found
    ready.has_target bound (Layout.picks_terms ready.has_condition ready.wellFormed)
  rw [Layout.zip_targets] at executed
  exact Connection.execute_of ready.words ready.regular executed

/-- An insertion appends a row of the assigned cells, if it leaves out no required one. -/
theorem execute_insert {assignments : List Assignment}
    (ready : Ready meaning mapping database table (.insert assignments))
    (plain : ∀ assignment ∈ assignments,
      Sql.isQualified (mapping.layout.primaryOf assignment.field) = false)
    (fills : table.missing? (table.newRow (mapping.layout.targetCells table assignments)) = none) :
    (Connection.executor meaning).execute
        (.of (shape mapping.layout (.insert assignments)) (params (.insert assignments)))
        (Connection.of database) =
      (.ok 1, Connection.of (database.replace { table with rows :=
        table.rows ++ [table.newRow (mapping.layout.targetCells table assignments)] })) := by
  rw [← Layout.zip_targets] at fills ⊢
  have bound : params (.insert assignments) = assignments.map (·.value.parameter) :=
    List.append_nil _
  rw [bound]
  refine Connection.execute_of ready.words ready.regular ?_
  exact Database.execute_insert (List.forall_mem_map.mpr plain) ready.found ready.has_target fills

end Ready

/-- A compiled selection answers with the rows that its filter admits, in their order, and the
clause in its text is true of these rows and of no others. -/
theorem select_returns_admitted (laws : NormalForm normalize)
    (checked : mapping.Checked normalize) {fields : List Field} {filter : Filter}
    (built : (Query.act (.select fields) filter).Built) {prepared : Prepared}
    (compiled : (Query.act (.select fields) filter).compile mapping.layout = .ok prepared)
    (found : database.find? mapping.table = some table)
    (has : ∀ field ∈ (Query.act (.select fields) filter).mentioned,
      ∀ column ∈ mapping.layout.columnsOf field, table.Has column)
    (wellFormed : ∀ condition ∈ filter.conditions,
      (meaning condition.value.parameter).isSome = true) :
    (Connection.executor meaning).fetch prepared (Connection.of database) =
        (.ok ((table.rows.filter fun row =>
            filter.admits meaning (mapping.layout.cells table row)).map
          (table.project (fields.flatMap mapping.layout.columnsOf))), Connection.of database) ∧
      ∃ clause condition, Sql.Statement.read? prepared.sql =
          some (.select (fields.flatMap mapping.layout.columnsOf) mapping.table clause) ∧
        table.condition clause prepared.params = .ok condition ∧
        ∀ row, (condition.all fun condition => condition.truth meaning row == some true) =
          filter.admits meaning (mapping.layout.cells table row) := by
  obtain ⟨complete, rfl⟩ := (compile_yields _).of_ok compiled
  have ready : Ready meaning mapping database table (.act (.select fields) filter) :=
    ⟨checked.sound laws, built.linked, complete, found, has, fun _ _ => wellFormed⟩
  exact ⟨ready.fetch, _, _, Sql.Statement.read?_print ready.words ready.regular,
    Layout.condition_terms ready.has_condition, Layout.truth_terms⟩

/-- A table of the sample mapping. -/
def sampleTable : Table :=
  ⟨"test", [⟨"uuid", true⟩, ⟨"identifier", true⟩, ⟨"value", true⟩, ⟨"type", false⟩],
    [[some "u1", some "k1", none, some "t"], [some "u1", some "k2", some "red", none],
      [some "u2", some "k1", some "blue", none]]⟩

/-- A filter of two runs. -/
def sampleFilter : Filter :=
  ⟨[⟨.value, .text "red", .init⟩, ⟨.owner, .text "u2", .and⟩, ⟨.key, .text "k1", .or⟩]⟩

theorem select_returns_admitted_sample :
    ((Connection.executor Regex.meaning?).fetch
      ⟨"SELECT identifier FROM test WHERE value REGEXP ? AND uuid REGEXP ? OR identifier REGEXP ?;",
        ["red", "u2", "k1"], 1⟩ (Connection.of ⟨[sampleTable]⟩)).1 =
      .ok [[some "k1"], [some "k1"]] := by
  have opened : (Query.act (.select [.key]) ⟨sampleFilter.conditions.take 1⟩).Built :=
    @Built.step _ _ (.filter .value (.text "red")) (.select [.key]) rfl
  have linked : (Query.act (.select [.key]) ⟨sampleFilter.conditions.take 2⟩).Built :=
    @Built.step _ _ (.and .owner (.text "u2")) opened rfl
  have built : (Query.act (.select [.key]) sampleFilter).Built :=
    @Built.step _ _ (.or .key (.text "k1")) linked rfl
  have compiled : (Query.act (.select [.key]) sampleFilter).compile Mapping.sample.layout = .ok
      ⟨"SELECT identifier FROM test WHERE value REGEXP ? AND uuid REGEXP ? OR identifier REGEXP ?;",
        ["red", "u2", "k1"], 1⟩ := rfl
  have found : Database.find? ⟨[sampleTable]⟩ Mapping.sample.table = some sampleTable := rfl
  have wellFormed : ∀ condition ∈ sampleFilter.conditions,
      (Regex.meaning? condition.value.parameter).isSome = true := by decide
  have answer := (select_returns_admitted Identifier.normalForm_id Mapping.checked_sample built
    compiled found (by decide) wellFormed).1
  refine (congrArg Prod.fst answer).trans ?_
  decide +kernel

end Query

end EntryStore
