import EntryStore.Proofs.Sql.Rows
import EntryStore.Proofs.Store.Schema

/-!
# One filter, the same rows

A selection, an update and a deletion with one filter act on the same rows of a table that has
the columns of the mapping.  What an update does to a row is stated by `Layout.Assigned`: the
last assignment to a column counts, and no other cell changes.
-/

namespace EntryStore

open Sql (PatternMeaning Table Database Connection Prepared foldName)
open Identifier (NormalForm)

/-- A table that has the columns of a mapping under different names, and a cell for each column
in each row. -/
structure Mapping.Fits (mapping : Mapping) (table : Table) : Prop where
  tidy : table.Tidy
  names : ∀ column ∈ mapping.layout.allColumns, table.Names column
  distinct : (mapping.layout.allColumns.map foldName).Nodup
  filled : ∀ row ∈ table.rows, row.length = table.columns.length

/-- What assignments make of a row: the last text for a column is in its cell, and the cells of
other columns are kept. -/
structure Layout.Assigned (layout : Layout) (table : Table) (assignments : List Assignment)
    (before after : Row) : Prop where
  length : after.length = before.length
  written : ∀ earlier assignment later, assignments = earlier ++ assignment :: later →
    (∀ other ∈ later, layout.primaryOf other.field ≠ layout.primaryOf assignment.field) →
    table.cell (layout.primaryOf assignment.field) after = some assignment.value.parameter
  kept : ∀ position, (∀ assignment ∈ assignments,
    table.positionOf (layout.primaryOf assignment.field) ≠ position) →
    after[position]? = before[position]?

namespace Mapping.Fits

variable {mapping : Mapping} {table : Table} (fits : mapping.Fits table)
include fits

/-- Other rows change nothing about the columns. -/
theorem withRows {rows : List Row} (filled : ∀ row ∈ rows, row.length = table.columns.length) :
    mapping.Fits { table with rows := rows } :=
  ⟨⟨fits.tidy.plain, fits.tidy.distinct⟩, fits.names, fits.distinct, filled⟩

theorem names_columnsOf {field : Field} {column : String}
    (member : column ∈ mapping.layout.columnsOf field) : table.Names column :=
  fits.names column (List.mem_flatMap.mpr ⟨field, Field.mem_all field, member⟩)

theorem names_primaryOf {field : Field} (maps : mapping.layout.Maps field) :
    table.Names (mapping.layout.primaryOf field) :=
  fits.names_columnsOf (Layout.primaryOf_mem_columnsOf maps)

/-- Different columns of a mapping have different positions. -/
theorem positionOf_injective {column other : String} (member : column ∈ mapping.layout.allColumns)
    (otherMember : other ∈ mapping.layout.allColumns)
    (same : table.positionOf column = table.positionOf other) : column = other := by
  refine List.inj_on_of_nodup_map fits.distinct member otherMember ?_
  exact Table.foldName_eq_of_positionOf fits.tidy (fits.names _ member) (fits.names _ otherMember)
    same

/-- Overwriting does to a row what assignments are to make of it. -/
theorem assigned_overwrite {assignments : List Assignment}
    (maps : ∀ assignment ∈ assignments, mapping.layout.Maps assignment.field) {row : Row}
    (member : row ∈ table.rows) :
    mapping.layout.Assigned table assignments row
      (Table.overwrite row (mapping.layout.targetCells table assignments)) := by
  have primary : ∀ assignment ∈ assignments,
      mapping.layout.primaryOf assignment.field ∈ mapping.layout.allColumns :=
    fun assignment assignmentMember => List.mem_flatMap.mpr ⟨_, Field.mem_all _,
      Layout.primaryOf_mem_columnsOf (maps assignment assignmentMember)⟩
  refine ⟨Table.length_overwrite _ _, ?_, ?_⟩
  · rintro earlier assignment later rfl last
    have here := primary assignment (by simp)
    have inside : table.positionOf (mapping.layout.primaryOf assignment.field) < row.length := by
      rw [fits.filled row member]
      exact Table.positionOf_lt_of_names fits.tidy (fits.names _ here)
    have apart : ∀ cell ∈ mapping.layout.targetCells table later,
        cell.1 ≠ table.positionOf (mapping.layout.primaryOf assignment.field) := by
      refine List.forall_mem_map.mpr fun other otherMember same => last other otherMember ?_
      exact fits.positionOf_injective (primary other (by simp [otherMember])) here same
    unfold Table.cell Layout.targetCells
    rw [List.map_append, List.map_cons]
    exact congrArg Option.join (Table.getElem?_overwrite_last inside apart)
  · intro position elsewhere
    exact Table.getElem?_overwrite_of_ne (List.forall_mem_map.mpr elsewhere)

end Mapping.Fits

namespace Query

variable {normalize : String → String} {mapping : Mapping} {meaning : PatternMeaning}
variable {database : Database} {table : Table}

/-- Whatever is asked of a table that fits can be answered. -/
theorem ready_of_fits (sound : mapping.Sound) (fits : mapping.Fits table) {query : Query}
    (linked : Linked query.conditions) (complete : query.Complete mapping.layout)
    (found : database.find? mapping.table = some table)
    (wellFormed : ∀ condition ∈ query.conditions,
      (meaning condition.value.parameter).isSome = true) :
    query.Ready meaning mapping database table where
  sound := sound
  linked := linked
  complete := complete
  found := found
  has := fun _ _ _ member => Table.has_of_names fits.tidy (fits.names_columnsOf member)
  wellFormed := fun _ _ => wellFormed

/-- With one filter, a deletion removes exactly the rows that a selection shows, reports their
number and keeps the others in their order, so that nothing is left to select; an update reports
the same number, makes its assignments in these rows and changes no other row. -/
theorem actions_meet_same_rows (laws : NormalForm normalize) (checked : mapping.Checked normalize)
    (found : database.find? mapping.table = some table) (fits : mapping.Fits table)
    {filter : Filter} (built : (Query.act .delete filter).Built)
    (wellFormed : ∀ condition ∈ filter.conditions,
      (meaning condition.value.parameter).isSome = true)
    {fields : List Field} {assignments : List Assignment}
    {selection deletion update : Prepared}
    (selects : (Query.act (.select fields) filter).compile mapping.layout = .ok selection)
    (deletes : (Query.act .delete filter).compile mapping.layout = .ok deletion)
    (updates : (Query.act (.update assignments) filter).compile mapping.layout = .ok update) :
    let admitted := table.rows.filter fun row =>
      filter.admits meaning (mapping.layout.cells table row)
    let rest := table.rows.filter fun row =>
      !filter.admits meaning (mapping.layout.cells table row)
    let after := Connection.of (database.replace { table with rows := rest })
    (Connection.executor meaning).fetch selection (Connection.of database) =
        (.ok (admitted.map (table.project (fields.flatMap mapping.layout.columnsOf))),
          Connection.of database) ∧
      (Connection.executor meaning).execute deletion (Connection.of database) =
        (.ok admitted.length, after) ∧
      (Connection.executor meaning).fetch selection after = (.ok [], after) ∧
      ∃ rows, (Connection.executor meaning).execute update (Connection.of database) =
          (.ok admitted.length, Connection.of (database.replace { table with rows := rows })) ∧
        List.Forall₂ (fun before after =>
          if filter.admits meaning (mapping.layout.cells table before) then
            mapping.layout.Assigned table assignments before after
          else after = before) table.rows rows := by
  intro admitted rest after
  have sound := checked.sound laws
  obtain ⟨selectComplete, rfl⟩ := (compile_yields _).of_ok selects
  obtain ⟨deleteComplete, rfl⟩ := (compile_yields _).of_ok deletes
  obtain ⟨updateComplete, rfl⟩ := (compile_yields _).of_ok updates
  have linked : Linked filter.conditions := built.linked
  have selecting : Ready meaning mapping database table (.act (.select fields) filter) :=
    ready_of_fits sound fits linked selectComplete found wellFormed
  have deleting : Ready meaning mapping database table (.act .delete filter) :=
    ready_of_fits sound fits linked deleteComplete found wellFormed
  have updating : Ready meaning mapping database table (.act (.update assignments) filter) :=
    ready_of_fits sound fits linked updateComplete found wellFormed
  have counted : (table.rows.countP fun row =>
      filter.admits meaning (mapping.layout.cells table row)) = admitted.length :=
    List.countP_eq_length_filter
  refine ⟨selecting.fetch, ?_, ?_, ?_⟩
  · rw [deleting.execute_delete, counted]
  · have remaining : mapping.Fits { table with rows := rest } :=
      fits.withRows fun row member => fits.filled row (List.mem_of_mem_filter member)
    have again : Ready meaning mapping (database.replace { table with rows := rest })
        { table with rows := rest } (.act (.select fields) filter) :=
      ready_of_fits sound remaining linked selectComplete (Database.find?_replace found rest)
        wellFormed
    have nothing : (rest.filter fun row =>
        filter.admits meaning (mapping.layout.cells table row)) = [] := by
      rw [List.filter_eq_nil_iff]
      intro row member
      simpa using (List.mem_filter.mp member).2
    refine again.fetch.trans ?_
    change (Except.ok (List.map _ (rest.filter fun row =>
      filter.admits meaning (mapping.layout.cells table row))), after) = _
    rw [nothing, List.map_nil]
  · have maps : ∀ assignment ∈ assignments, mapping.layout.Maps assignment.field :=
      fun assignment member => updateComplete.2 _
        (@mem_mentioned_of_mem_assignments (.act (.update assignments) filter) assignment member)
    have plain : ∀ assignment ∈ assignments,
        Sql.isQualified (mapping.layout.primaryOf assignment.field) = false :=
      fun assignment member =>
        Table.plain_of_names fits.tidy (fits.names_primaryOf (maps assignment member))
    refine ⟨_, (updating.execute_update plain).trans (by rw [counted]), ?_⟩
    rw [List.forall₂_map_right_iff, List.forall₂_same]
    intro row member
    split
    · next admits =>
        exact fits.assigned_overwrite maps member
    · rfl

theorem actions_meet_same_rows_sample :
    ((Connection.executor Regex.meaning?).execute
        ⟨"DELETE FROM test WHERE value REGEXP ? AND uuid REGEXP ? OR identifier REGEXP ?;",
          ["red", "u2", "k1"], 0⟩ (Connection.of ⟨[sampleTable]⟩)).1 = .ok 2 ∧
      ((Connection.executor Regex.meaning?).execute
        ⟨"UPDATE test SET value = ?, identifier = ?, value = ? WHERE value REGEXP ? AND " ++
          "uuid REGEXP ? OR identifier REGEXP ?;", ["x", "k9", "y", "red", "u2", "k1"], 0⟩
        (Connection.of ⟨[sampleTable]⟩)).1 = .ok 2 := by
  have opened : (Query.act .delete ⟨sampleFilter.conditions.take 1⟩).Built :=
    @Built.step _ _ (.filter .value (.text "red")) .delete rfl
  have linked : (Query.act .delete ⟨sampleFilter.conditions.take 2⟩).Built :=
    @Built.step _ _ (.and .owner (.text "u2")) opened rfl
  have built : (Query.act .delete sampleFilter).Built :=
    @Built.step _ _ (.or .key (.text "k1")) linked rfl
  have fits : Mapping.sample.Fits sampleTable :=
    ⟨⟨by decide, by decide⟩, by decide, by decide, by decide⟩
  have found : Database.find? ⟨[sampleTable]⟩ Mapping.sample.table = some sampleTable := rfl
  have wellFormed : ∀ condition ∈ sampleFilter.conditions,
      (Regex.meaning? condition.value.parameter).isSome = true := by decide
  have selects : (Query.act (.select [.key]) sampleFilter).compile Mapping.sample.layout = .ok
      ⟨"SELECT identifier FROM test WHERE value REGEXP ? AND uuid REGEXP ? OR identifier REGEXP ?;",
        ["red", "u2", "k1"], 1⟩ := rfl
  have deletes : (Query.act .delete sampleFilter).compile Mapping.sample.layout = .ok
      ⟨"DELETE FROM test WHERE value REGEXP ? AND uuid REGEXP ? OR identifier REGEXP ?;",
        ["red", "u2", "k1"], 0⟩ := rfl
  have updates : (Query.act (.update [⟨.value, .text "x"⟩, ⟨.key, .text "k9"⟩,
      ⟨.value, .text "y"⟩]) sampleFilter).compile Mapping.sample.layout = .ok
      ⟨"UPDATE test SET value = ?, identifier = ?, value = ? WHERE value REGEXP ? AND " ++
        "uuid REGEXP ? OR identifier REGEXP ?;", ["x", "k9", "y", "red", "u2", "k1"], 0⟩ := rfl
  have two : (sampleTable.rows.filter fun row =>
      sampleFilter.admits Regex.meaning? (Mapping.sample.layout.cells sampleTable row)).length =
      2 := by decide +kernel
  obtain ⟨_, removed, _, _, changed, _⟩ := actions_meet_same_rows Identifier.normalForm_id
    Mapping.checked_sample found fits built wellFormed selects deletes updates
  rw [removed, changed, two]
  exact ⟨rfl, rfl⟩

end Query

end EntryStore
