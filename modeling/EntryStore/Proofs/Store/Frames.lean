import EntryStore.Proofs.Sql.Meanings
import EntryStore.Proofs.Store.Atomicity

/-!
# Storing keeps all other cells

A call that stores something writes into the primary columns only.  In the rows of its owner and
key the value changes and nothing else, no other row changes at all, and a row that is appended
has nothing in the further columns.  A call that stores nothing removes the rows of its owner and
key.  This holds of any table in which the columns of the mapping are different ones.
-/

namespace EntryStore

open Sql (Connection Database PatternMeaning Prepared Refines Statement Table)
open Identifier (NormalForm)
open Regex (matcher? meaning? takes_meaning?)

/-- The owner and key of which a call removes the entry, if it stores nothing for them. -/
def Call.clears? : Call → Option (String × String)
  | .setString owner key none => some (owner, key)
  | .setList owner key none => some (owner, key)
  | _ => none

namespace Layout

/-- The columns of a field behind its primary one. -/
def furtherOf (layout : Layout) (field : Field) : List String := (layout.columnsOf field).tail

/-- A row has another text as its value, and all its other cells are kept. -/
structure Revalued (layout : Layout) (table : Table) (text : String) (before after : Row) :
    Prop where
  value : layout.cells table after .value = some text
  others : ∀ position, position ≠ table.positionOf (layout.primaryOf .value) →
    after[position]? = before[position]?
  further : ∀ field, ∀ column ∈ layout.furtherOf field, table.Has column →
    table.cell column after = table.cell column before

/-- A row has the texts of a binding in the primary columns, and nothing in any other column. -/
structure Entered (layout : Layout) (table : Table) (binding : Binding) (row : Row) : Prop where
  length : row.length = table.columns.length
  texts : ∀ field, layout.cells table row field = some (binding.get field)
  others : ∀ position, (∀ field, position ≠ table.positionOf (layout.primaryOf field)) →
    row[position]?.join = none
  further : ∀ field, ∀ column ∈ layout.furtherOf field, table.Has column →
    table.cell column row = none

/-- Rows before and after a binding is stored: the rows of its pair have its text as their value,
and all others are kept; where the pair has no row, one is appended. -/
inductive Stored (layout : Layout) (table : Table) (binding : Binding) (before : List Row) :
    List Row → Prop where
  | updated {after : List Row}
      (present : ∃ row ∈ before, layout.isAt table binding.owner binding.key row = true)
      (each : List.Forall₂ (fun before after =>
        if layout.isAt table binding.owner binding.key before then
          layout.Revalued table binding.text before after
        else after = before) before after) :
      Stored layout table binding before after
  | inserted {row : Row}
      (absent : ∀ row ∈ before, layout.isAt table binding.owner binding.key row = false)
      (entered : layout.Entered table binding row) :
      Stored layout table binding before (before ++ [row])

/-- No name of a layout comes twice, and different names are different columns of a table, as far
as it has them. -/
structure Distinct (layout : Layout) (table : Table) : Prop where
  names : layout.allColumns.Nodup
  positions : ∀ column ∈ layout.allColumns, ∀ other ∈ layout.allColumns,
    table.Has column → table.Has other →
      table.positionOf column = table.positionOf other → column = other

section Distinct

variable {layout : Layout} {table : Table} (distinct : layout.Distinct table)
  (maps : ∀ field, layout.Maps field) (has : ∀ field, table.Has (layout.primaryOf field))
include distinct maps has

theorem placed_of_distinct : layout.Placed table where
  has := has
  apart field other same := by
    have equal := distinct.positions _ (primaryOf_mem_allColumns (maps field)) _
      (primaryOf_mem_allColumns (maps other)) (has field) (has other) same
    have there := primaryOf_mem_columnsOf (maps other)
    rw [← equal] at there
    exact eq_of_mem_columnsOf distinct.names (primaryOf_mem_columnsOf (maps field)) there

/-- A further column is none of the primary ones. -/
theorem positionOf_ne_of_further {field : Field} {column : String}
    (further : column ∈ layout.furtherOf field) (present : table.Has column) (other : Field) :
    table.positionOf column ≠ table.positionOf (layout.primaryOf other) := by
  have member : column ∈ layout.columnsOf field := List.mem_of_mem_tail further
  intro same
  have equal := distinct.positions _ (mem_allColumns member) _
    (primaryOf_mem_allColumns (maps other)) present (has other) same
  have there := primaryOf_mem_columnsOf (maps other)
  rw [← equal] at there
  obtain rfl := eq_of_mem_columnsOf distinct.names member there
  -- The primary column of the field would come twice among the columns of the field.
  obtain ⟨first, others, columns⟩ := List.exists_cons_of_ne_nil (maps field)
  have once : (layout.columnsOf field).Nodup :=
    (List.nodup_flatMap.mp distinct.names).1 field (Field.mem_all field)
  rw [furtherOf, columns, List.tail_cons] at further
  rw [primaryOf, columns, List.headD_cons] at equal
  rw [columns, List.nodup_cons] at once
  exact once.1 (equal ▸ further)

/-- Another value changes one cell. -/
theorem revalued_withValue {row : Row} (filled : row.length = table.columns.length)
    (text : String) : layout.Revalued table text row (layout.withValue table text row) := by
  have others : ∀ position, position ≠ table.positionOf (layout.primaryOf .value) →
      (layout.withValue table text row)[position]? = row[position]? :=
    fun position elsewhere => List.getElem?_set_ne (Ne.symm elsewhere)
  refine ⟨cells_withValue_value (placed_of_distinct distinct maps has) filled text, others, ?_⟩
  intro field column further present
  exact congrArg Option.join
    (others _ (positionOf_ne_of_further distinct maps has further present .value))

/-- A new row has nothing but the texts of its binding. -/
theorem entered_bindingRow (binding : Binding) :
    layout.Entered table binding (layout.bindingRow table binding) := by
  have others : ∀ position, (∀ field, position ≠ table.positionOf (layout.primaryOf field)) →
      (layout.bindingRow table binding)[position]?.join = none := by
    intro position elsewhere
    by_cases inside : position < table.columns.length
    · rw [bindingRow, Table.getElem?_newRow inside,
        lookup_bindingCells_of_ne binding fun field => (elsewhere field).symm]
      rfl
    · rw [List.getElem?_eq_none]
      · rfl
      · rw [bindingRow, Table.length_newRow]
        exact Nat.le_of_not_lt inside
  refine ⟨Table.length_newRow _, cells_bindingRow (placed_of_distinct distinct maps has) binding,
    others, ?_⟩
  intro field column further present
  exact others _ (positionOf_ne_of_further distinct maps has further present)

/-- What storing makes of the rows of a table. -/
theorem stored_storeRows {rows : List Row}
    (filled : ∀ row ∈ rows, row.length = table.columns.length) (owner key text : String) :
    layout.Stored table ⟨owner, key, text⟩ rows (layout.storeRows table owner key text rows) := by
  unfold storeRows
  split
  · next absent =>
      apply Stored.inserted
      · intro row member
        exact eq_false_of_ne_true (List.countP_eq_zero.mp absent row member)
      · exact entered_bindingRow distinct maps has _
  · next present =>
      apply Stored.updated
      · exact List.countP_pos_iff.mp (Nat.pos_of_ne_zero present)
      · rw [rewriteRows, List.forall₂_map_right_iff, List.forall₂_same]
        intro row member
        split
        · exact revalued_withValue distinct maps has (filled row member) text
        · rfl

end Distinct

end Layout

namespace Store

/-! ## Statements that have been executed -/

/-- A query to which a number is answered has been executed on an open connection. -/
theorem exists_of_execute_shape (query : Query) {mapping : Mapping} (sound : mapping.Sound)
    (linked : Linked query.conditions) (complete : query.Complete mapping.layout)
    {before after : Connection} {count : Nat}
    (sent : (Connection.executor meaning?).execute
      (.of (query.shape mapping.layout) query.params) before = (.ok count, after)) :
    before.isOpen = true ∧ ∃ outcome database,
      before.database.execute meaning? (query.shape mapping.layout) query.params =
          .ok (outcome, database) ∧
        Connection.countOf outcome = count ∧ after = { before with database := database } := by
  have reads : Statement.read? (Prepared.of (query.shape mapping.layout) query.params).sql =
      some (query.shape mapping.layout) := Query.read?_shape sound linked complete
  exact Connection.exists_of_execute reads sent

section Executed

variable {mapping : Mapping} (maps : ∀ field, mapping.layout.Maps field)
  (sound : mapping.Sound)
variable {table : Table} {before after : Connection} {owner key : String} {value : Value}
  {count : Nat} (found : before.database.find? mapping.table = some table)
include maps sound found

/-- An update that has been executed on an open connection has found the primary columns, and has
given the rows of its pair another value. -/
theorem of_updateStatement
    (sent : (Connection.executor meaning?).execute
      (mapping.layout.updateStatement owner key value) before = (.ok count, after)) :
    before.isOpen = true ∧ (∀ field, table.Has (mapping.layout.primaryOf field)) ∧
      count = table.rows.countP (mapping.layout.isAt table owner key) ∧
      after = { before with database := before.database.replace { table with
        rows := mapping.layout.rewriteRows table owner key value.parameter table.rows } } := by
  let query : Query := .act (.update [⟨.value, value⟩]) (pairFilter owner key)
  have statement : mapping.layout.updateStatement owner key value =
      .of (query.shape mapping.layout) query.params := rfl
  rw [statement] at sent
  obtain ⟨isOpen, outcome, database, executed, counted, rfl⟩ :=
    exists_of_execute_shape query sound (linked_pairFilter owner key)
      (Query.complete_of_maps maps (List.cons_ne_nil _ _)) sent
  obtain ⟨plain, target, compared⟩ := Database.has_of_update found (Nat.le_refl _) executed
  have has : ∀ field, table.Has (mapping.layout.primaryOf field) := by
    simp only [Layout.terms, pairFilter, List.forall_mem_map, List.forall_mem_cons] at compared
    intro field
    cases field with
    | owner => exact compared.1
    | key => exact compared.2.1
    | value => exact target (mapping.layout.primaryOf .value) List.mem_cons_self
  have updated := @Database.execute_update _ _ _ _ _ _ _ [value.parameter] _ plain found target rfl
    (picks_pair (takes_meaning? owner) (takes_meaning? key) compared)
  cases executed.symm.trans updated
  exact ⟨isOpen, has, counted.symm, rfl⟩

/-- An insertion that has been executed has appended a row. -/
theorem of_insertStatement (has : ∀ field, table.Has (mapping.layout.primaryOf field))
    (sent : (Connection.executor meaning?).execute
      (mapping.layout.insertStatement owner key value) before = (.ok count, after)) :
    after = { before with database := before.database.replace { table with rows :=
      table.rows ++ [mapping.layout.bindingRow table ⟨owner, key, value.parameter⟩] } } := by
  let query : Query := .insert [⟨.owner, .text owner⟩, ⟨.key, .text key⟩, ⟨.value, value⟩]
  have statement : mapping.layout.insertStatement owner key value =
      .of (query.shape mapping.layout) query.params := rfl
  rw [statement] at sent
  obtain ⟨_, outcome, database, executed, _, rfl⟩ := exists_of_execute_shape query sound trivial
    (Query.complete_of_maps maps (List.cons_ne_nil _ _)) sent
  have target : ∀ column ∈ query.assignments.map fun assignment =>
      mapping.layout.primaryOf assignment.field, table.Has column :=
    List.forall_mem_map.mpr fun assignment _ => has assignment.field
  have inserted := Database.eq_of_insert found target executed
  rw [inserted]
  rfl

variable {meaning : PatternMeaning} (refines : Refines meaning meaning?)
include refines

/-- A call that has removed the rows of its pair has changed nothing else. -/
theorem of_clears {call : Call} (clears : call.clears? = some (owner, key)) {answer : Answer}
    (ran : ((Store.mk mapping).perform call).run (Connection.executor meaning) before =
      (.ok answer, after)) :
    after = { before with database := before.database.replace { table with
      rows := table.rows.filter fun row => !mapping.layout.isAt table owner key row } } := by
  let query : Query := .act .delete (pairFilter owner key)
  have complete : query.Complete mapping.layout := Query.complete_of_maps maps trivial
  have program : (Store.mk mapping).perform call =
      ((Store.mk mapping).affected (.ok query)).bind fun _ => .done .done := by
    cases call with
    | setString owner key text? =>
        cases text? with
        | none =>
            cases clears
            exact Program.bind_assoc _ _ _
        | some text => cases clears
    | setList owner key elements? =>
        cases elements? with
        | none =>
            cases clears
            exact Program.bind_assoc _ _ _
        | some elements => cases clears
    | _ => cases clears
  replace ran := Program.run_of_refines refines ran
  rw [program, affected_eq complete] at ran
  obtain ⟨_, last, sent, finished⟩ := Program.exists_of_run_execute ran
  cases finished
  obtain ⟨_, outcome, database, executed, _, rfl⟩ :=
    exists_of_execute_shape query sound (linked_pairFilter owner key) complete sent
  have compared := Database.has_of_delete found (Nat.le_refl _) executed
  have deleted := Database.execute_delete found
    (picks_pair (takes_meaning? owner) (takes_meaning? key) compared)
  cases executed.symm.trans deleted
  rfl

/-- A call that has stored something has changed the rows of its table as storing does. -/
theorem of_stores {call : Call} (stores : call.stores? = some (owner, key, value))
    {answer : Answer} (ran : ((Store.mk mapping).perform call).run
      (Connection.executor meaning) before = (.ok answer, after)) :
    before.isOpen = true ∧ (∀ field, table.Has (mapping.layout.primaryOf field)) ∧
      after = { before with database := before.database.replace { table with
        rows := mapping.layout.storeRows table owner key value.parameter table.rows } } := by
  replace ran := Program.run_of_refines refines ran
  rw [perform_eq_upsert maps stores, Program.upsert] at ran
  obtain ⟨count, between, updated, ran⟩ := Program.exists_of_run_execute ran
  obtain ⟨isOpen, has, rfl, rfl⟩ := of_updateStatement maps sound found updated
  refine ⟨isOpen, has, ?_⟩
  unfold Layout.storeRows
  split
  · next absent =>
      -- An update that has met no row has left the table as it was.
      rw [if_pos absent, Layout.rewriteRows_of_absent _ absent] at ran
      obtain ⟨_, last, inserted, finished⟩ := Program.exists_of_run_execute ran
      cases finished
      rw [of_insertStatement maps sound (Database.find?_replace found table.rows) has inserted]
      simp only [Database.replace_replace]
  · next present =>
      rw [if_neg present] at ran
      cases ran
      rfl

end Executed

/-- A call that succeeds in storing a value writes into the value's cell in each row of its owner
and key, or into the primary cells of a new row where there is none.  All other cells of all rows
are kept, and those of the new row hold nothing.  A call that stores nothing removes the rows of
its owner and key and keeps the others. -/
theorem storing_keeps_other_cells {normalize : String → String} (laws : NormalForm normalize)
    {mapping : Mapping} (checked : mapping.Checked normalize) {store : Store}
    (made : ofMapping mapping = .ok store) {table : Table} {before after : Connection}
    (found : before.database.find? mapping.table = some table)
    (distinct : mapping.layout.Distinct table)
    (filled : ∀ row ∈ table.rows, row.length = table.columns.length)
    {call : Call} {answer : Answer}
    (ran : (store.perform call).run (Connection.executor matcher?) before =
      (.ok answer, after)) :
    (∀ owner key value, call.stores? = some (owner, key, value) →
      ∃ rows, mapping.layout.Stored table ⟨owner, key, value.parameter⟩ table.rows rows ∧
        after = { before with database := before.database.replace { table with rows := rows } }) ∧
    ∀ owner key, call.clears? = some (owner, key) →
      after = { before with database := before.database.replace { table with
        rows := table.rows.filter fun row => !mapping.layout.isAt table owner key row } } := by
  obtain ⟨maps, rfl⟩ := (ofMapping_yields mapping).of_ok made
  have sound := checked.sound laws
  constructor
  · intro owner key value stores
    obtain ⟨_, has, rfl⟩ := of_stores maps sound found Sql.matcher?_refines stores ran
    exact ⟨_, Layout.stored_storeRows distinct maps has filled owner key value.parameter, rfl⟩
  · intro owner key clears
    exact of_clears maps sound found Sql.matcher?_refines clears ran

theorem storing_keeps_other_cells_sample :
    ∃ rows, Mapping.sample.layout.Stored Query.sampleTable ⟨"u1", "k1", "new"⟩
        Query.sampleTable.rows rows ∧
      (((Store.mk Mapping.sample).perform (.setString "u1" "k1" (some "new"))).run
          (Connection.executor matcher?) (.of ⟨[Query.sampleTable]⟩)).2 =
        .of (Database.replace ⟨[Query.sampleTable]⟩ { Query.sampleTable with rows := rows }) := by
  have distinct : Mapping.sample.layout.Distinct Query.sampleTable := ⟨by decide, by decide⟩
  have ran : ((Store.mk Mapping.sample).perform (.setString "u1" "k1" (some "new"))).run
      (Connection.executor matcher?) (.of ⟨[Query.sampleTable]⟩) = (.ok .done, _) :=
    Prod.ext (by decide +kernel) rfl
  exact (storing_keeps_other_cells Identifier.normalForm_id Mapping.checked_sample rfl rfl distinct
    (by decide) ran).1 "u1" "k1" (.text "new") rfl

/-- A further column of the value has the name of the owner's column in another case. -/
def casedValue : Mapping := ⟨"meta", ⟨some ["a"], some ["b"], some ["c", "A"]⟩⟩

/-- A table in which the columns of `casedValue` are not different ones. -/
def threeColumns : Table := ⟨"meta", [⟨"a", true⟩, ⟨"b", true⟩, ⟨"c", true⟩], []⟩

/-- A call that stores nothing removes a row with all its cells.  A further column that the table
has under another name of the mapping too is written with that one. -/
theorem further_cells_not_kept :
    (Mapping.sample.Checked id ∧ Mapping.sample.layout.allColumns.Nodup ∧
      Query.sampleTable.rows.map (fun row => (Mapping.sample.layout.isAt Query.sampleTable "u1" "k1"
        row, Query.sampleTable.cell "type" row)) =
        [(true, some "t"), (false, none), (false, none)] ∧
      (((Store.mk Mapping.sample).perform (.setString "u1" "k1" none)).run
          (Connection.executor matcher?) (.of ⟨[Query.sampleTable]⟩)).map id Connection.database =
        (.ok .done, ⟨[{ Query.sampleTable with rows := Query.sampleTable.rows.tail }]⟩)) ∧
    (casedValue.Checked id ∧ casedValue.layout.allColumns.Nodup ∧
      (((Store.mk casedValue).perform (.setString "u" "k" (some "v"))).run
          (Connection.executor matcher?) (.of ⟨[threeColumns]⟩)).map id Connection.database =
        (.ok .done, ⟨[{ threeColumns with rows := [[some "u", some "k", some "v"]] }]⟩) ∧
      threeColumns.cell "A" [some "u", some "k", some "v"] = some "u") := by
  have checked : casedValue.Checked id :=
    ⟨⟨casedValue.table, casedValue.columns⟩, by decide +kernel⟩
  exact ⟨⟨Mapping.checked_sample, by decide, by decide, by decide +kernel⟩,
    checked, by decide, by decide +kernel, by decide⟩

end Store

end EntryStore
