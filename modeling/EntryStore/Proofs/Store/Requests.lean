import EntryStore.Proofs.Store.Contents

/-!
# Requests to a table of any rows

What the requests of a store answer, and the rows that they leave, whatever rows the table
holds: a value that is stored is that of every row of its pair, or of a new row where there
was none, and a pair is shown once for each of its rows.
-/

namespace EntryStore.Store

open Sql (Connection Database PatternMeaning Table)
open Regex (Takes)

/-! ## The rows of a pair -/

namespace Holds

variable {meaning : PatternMeaning} {mapping : Mapping} {rows : List Row} {connection : Connection}
variable {owner key : String} (sound : mapping.Sound) (usable : mapping.Usable)
  (holds : Holds mapping rows connection)
include sound usable holds

variable (meaning) in
/-- An insertion appends a row. -/
theorem insert_pair (owner key : String) (value : Value) :
    Counts meaning ((Store.mk mapping).affected (insertQuery owner key value)) connection 1
        (Store.withRows mapping (rows ++
          [mapping.layout.bindingRow (freshTable mapping) ⟨owner, key, value.parameter⟩])
          connection) ∧
      Holds mapping
        (rows ++ [mapping.layout.bindingRow (freshTable mapping) ⟨owner, key, value.parameter⟩])
        (Store.withRows mapping (rows ++
          [mapping.layout.bindingRow (freshTable mapping) ⟨owner, key, value.parameter⟩])
          connection) :=
  ⟨holds.insert sound usable owner key value,
    holds.withRows (List.forall_mem_append.mpr ⟨holds.admissible,
      List.forall_mem_singleton.mpr (admissible_bindingRow usable _)⟩)⟩

/-- Behind an update that has found no row, a value is stored in a new one. -/
theorem run_setValue_of_absent {owner key : String} {value : Value}
    (absent : Counts meaning ((Store.mk mapping).affected (updateQuery owner key value))
      connection 0 (Store.withRows mapping rows connection)) :
    ((Store.mk mapping).setValue owner key value).run (Connection.executor meaning) connection =
      (.ok (), Store.withRows mapping (rows ++
        [mapping.layout.bindingRow (freshTable mapping) ⟨owner, key, value.parameter⟩])
        connection) := by
  obtain ⟨inserted, _⟩ := (holds.withRows holds.admissible).insert_pair meaning sound usable owner
    key value
  rw [withRows_withRows] at inserted
  change (((Store.mk mapping).affected (updateQuery owner key value)).bind _).run _ _ = _
  rw [Program.run_bind, absent.run]
  exact run_finish inserted.run fun _ => ()

variable (ownerTaken : Takes meaning owner) (keyTaken : Takes meaning key)
include ownerTaken keyTaken

/-- A deletion of a pair removes its rows. -/
theorem delete_pair :
    Counts meaning ((Store.mk mapping).delete owner key) connection
        (rows.countP (mapping.layout.isAt (freshTable mapping) owner key))
        (Store.withRows mapping
          (rows.filter fun row => !mapping.layout.isAt (freshTable mapping) owner key row)
          connection) ∧
      Holds mapping
        (rows.filter fun row => !mapping.layout.isAt (freshTable mapping) owner key row)
        (Store.withRows mapping
          (rows.filter fun row => !mapping.layout.isAt (freshTable mapping) owner key row)
          connection) :=
  ⟨holds.delete sound usable (selects_pair ownerTaken keyTaken),
    holds.withRows fun row member => holds.admissible row (List.mem_of_mem_filter member)⟩

/-- An update of a pair gives its rows another value. -/
theorem update_pair (value : Value) :
    Counts meaning ((Store.mk mapping).affected (updateQuery owner key value)) connection
        (rows.countP (mapping.layout.isAt (freshTable mapping) owner key))
        (Store.withRows mapping
          (mapping.layout.rewriteRows (freshTable mapping) owner key value.parameter rows)
          connection) ∧
      Holds mapping (mapping.layout.rewriteRows (freshTable mapping) owner key value.parameter rows)
        (Store.withRows mapping
          (mapping.layout.rewriteRows (freshTable mapping) owner key value.parameter rows)
          connection) := by
  refine ⟨holds.update sound usable (selects_pair ownerTaken keyTaken) value,
    holds.withRows (List.forall_mem_map.mpr fun row member => ?_)⟩
  split
  · exact admissible_withValue usable (holds.admissible row member) value.parameter
  · exact holds.admissible row member

/-- The first statement of storing a value updates the rows of the pair, and an insertion is left
if there are none. -/
theorem advance_setValue (value : Value) {α : Type} (next : Unit → Program α) :
    ∃ after, (((Store.mk mapping).setValue owner key value).bind next).advance
        (Connection.executor meaning) connection =
        (if rows.countP (mapping.layout.isAt (freshTable mapping) owner key) = 0 then
          ((Store.mk mapping).affected (insertQuery owner key value)).bind fun _ => next ()
        else next (), after) ∧
      Holds mapping (mapping.layout.rewriteRows (freshTable mapping) owner key value.parameter rows)
        after := by
  obtain ⟨counts, held⟩ := holds.update_pair sound usable ownerTaken keyTaken value
  refine ⟨_, ?_, held⟩
  change ((((Store.mk mapping).affected (updateQuery owner key value)).bind _).bind _).advance _ _
    = _
  rw [Program.bind_assoc, counts.advance]
  split
  · change ((((Store.mk mapping).affected (insertQuery owner key value)).bind _).bind _, _) = _
    rw [Program.bind_assoc]
    rfl
  · rfl

end Holds

/-! ## Storing and reading -/

/-- The first row at a pair holds the text that has been stored for it. -/
theorem find?_storeRows {mapping : Mapping} {rows : List Row} (usable : mapping.Usable)
    (admissible : ∀ row ∈ rows, Admissible mapping row) (owner key text : String) :
    ((mapping.layout.storeRows (freshTable mapping) owner key text rows).find?
        (mapping.layout.isAt (freshTable mapping) owner key)).bind
      (mapping.layout.cells (freshTable mapping) · .value) = some text :=
  Layout.find?_storeRows (placed_freshTable usable)
    (fun row member => (admissible row member).length) owner key text

/-- In any table that has the columns, a text is read off the first row of its pair. -/
theorem getString_of_has {meaning : PatternMeaning} {mapping : Mapping}
    (maps : ∀ field, mapping.layout.Maps field)
    (sound : mapping.Sound) {connection : Connection} (isOpen : connection.isOpen = true)
    {table : Table} (found : connection.database.find? mapping.table = some table)
    (has : ∀ field, table.Has (mapping.layout.primaryOf field))
    (shown : ∀ column ∈ mapping.layout.columnsOf .value, table.Has column) {owner key : String}
    (ownerTaken : Takes meaning owner) (keyTaken : Takes meaning key) :
    ((Store.mk mapping).getString owner key).run (Connection.executor meaning) connection =
      (.ok ((table.rows.find? (mapping.layout.isAt table owner key)).bind
        (mapping.layout.cells table · .value)), connection) := by
  obtain ⟨database, _⟩ := connection
  obtain rfl := isOpen
  let query : Query := .act (.select [.value]) (pairFilter owner key)
  have complete : query.Complete mapping.layout :=
    Query.complete_of_maps maps (List.cons_ne_nil _ _)
  have projected : ∀ column ∈ [Field.value].flatMap mapping.layout.columnsOf, table.Has column := by
    rwa [List.flatMap_singleton]
  have compared : ∀ term ∈ mapping.layout.terms (pairFilter owner key).conditions,
      table.Has term.column := List.forall_mem_map.mpr fun condition _ => has condition.field
  have executed := Database.execute_select found projected
    (picks_pair ownerTaken keyTaken compared)
  have fetched := Connection.fetch_of
    ((Query.allNames_shape sound complete).imp fun _ => Sql.isWord_of_isName)
    (Query.regular_shape (linked_pairFilter owner key) complete) executed
    (List.forall_mem_map.mpr fun row _ => List.length_map _)
  have asked : ((Store.mk mapping).rows (.ok query)).run (Connection.executor meaning)
      (.of database) = (.ok ((table.rows.filter (mapping.layout.isAt table owner key)).map
        (table.project ([Field.value].flatMap mapping.layout.columnsOf))), .of database) := by
    rw [rows_eq complete, Program.run_rowsOf]
    exact fetched
  refine (run_finish asked fun rows => (rows.head?.bind List.head?).join).trans ?_
  rw [List.head?_map, List.head?_filter]
  cases table.rows.find? (mapping.layout.isAt table owner key) with
  | none => rfl
  | some row =>
      rw [Option.map_some, Option.bind_some, Layout.head?_project (maps .value)]
      rfl

namespace Holds

variable {meaning : PatternMeaning} {mapping : Mapping} {rows : List Row} {connection : Connection}
variable {owner key : String} (sound : mapping.Sound) (usable : mapping.Usable)
  (holds : Holds mapping rows connection)
variable (ownerTaken : Takes meaning owner) (keyTaken : Takes meaning key)
include sound usable holds ownerTaken

/-- The keys of an owner are those of its rows. -/
theorem run_keys :
    ((Store.mk mapping).keys owner).run (Connection.executor meaning) connection =
      (.ok ((rows.filter fun row =>
          mapping.layout.cells (freshTable mapping) row .owner == some owner).filterMap
        (mapping.layout.cells (freshTable mapping) · .key)), connection) := by
  have shown := holds.select sound usable (selects_owner ownerTaken)
    (List.cons_ne_nil Field.key [])
  refine (run_finish shown fun rows => rows.filterMap fun row => row.head?.join).trans ?_
  simp only [List.filterMap_map, Function.comp_def, Layout.head?_project (usable.maps .key)]
  rfl

/-- The entries of an owner are those of its rows. -/
theorem run_entries :
    ((Store.mk mapping).entries owner).run (Connection.executor meaning) connection =
      (.ok ((rows.filter fun row =>
          mapping.layout.cells (freshTable mapping) row .owner == some owner).map
        (entryOf mapping)), connection) := by
  have nonempty : Field.all ≠ [] := List.cons_ne_nil _ _
  have read : ((rows.filter fun row =>
        mapping.layout.cells (freshTable mapping) row .owner == some owner).map
      ((freshTable mapping).project (Field.all.flatMap mapping.layout.columnsOf))).mapM
        (entryOfRow (mapping.layout.offsetOf .key) (mapping.layout.offsetOf .value)) =
      .ok ((rows.filter fun row =>
        mapping.layout.cells (freshTable mapping) row .owner == some owner).map
          (entryOf mapping)) := by
    rw [List.mapM_map]
    exact Outcome.mapM_eq_ok fun row member => entryOfRow_project_row usable
      (holds.admissible row (List.mem_of_mem_filter member))
  change (Program.bind ((Store.mk mapping).rows (.ok (.act (.select Field.all)
    (ownerFilter owner)))) _).run _ _ = _
  rw [Program.run_bind, holds.select sound usable (selects_owner ownerTaken) nonempty]
  simp only [offsets_eq usable.maps, read]
  rfl

include keyTaken

theorem run_setValue (value : Value) :
    ((Store.mk mapping).setValue owner key value).run (Connection.executor meaning) connection =
        (.ok (), Store.withRows mapping
          (mapping.layout.storeRows (freshTable mapping) owner key value.parameter rows)
          connection) ∧
      Holds mapping (mapping.layout.storeRows (freshTable mapping) owner key value.parameter rows)
        (Store.withRows mapping
          (mapping.layout.storeRows (freshTable mapping) owner key value.parameter rows)
          connection) := by
  obtain ⟨updated, held⟩ := holds.update_pair sound usable ownerTaken keyTaken value
  unfold Layout.storeRows
  split
  · next absent =>
      -- An update that has found no row has left the table as it was.
      rw [Layout.rewriteRows_of_absent _ absent, absent] at updated
      exact ⟨holds.run_setValue_of_absent sound usable updated,
        (holds.insert_pair meaning sound usable owner key value).2⟩
  · next present =>
      refine ⟨?_, held⟩
      change (((Store.mk mapping).affected (updateQuery owner key value)).bind _).run _ _ = _
      rw [Program.run_bind, updated.run]
      simp only [if_neg present]
      rfl

/-- A text is read off the first row of a pair. -/
theorem run_getString :
    ((Store.mk mapping).getString owner key).run (Connection.executor meaning) connection =
      (.ok ((rows.find? (mapping.layout.isAt (freshTable mapping) owner key)).bind
        (mapping.layout.cells (freshTable mapping) · .value)), connection) :=
  getString_of_has usable.maps sound holds.isOpen holds.found
    (fun field => (placed_freshTable usable).has field) (fun _ => has_column usable)
    ownerTaken keyTaken

/-- A pair is there if a row is at it. -/
theorem run_contains :
    ((Store.mk mapping).contains owner key).run (Connection.executor meaning) connection =
      (.ok (rows.any (mapping.layout.isAt (freshTable mapping) owner key)), connection) := by
  have shown := holds.select sound usable (selects_pair ownerTaken keyTaken)
    (List.cons_ne_nil Field.key [])
  refine (run_finish shown fun rows => !rows.isEmpty).trans ?_
  rw [List.isEmpty_map, ← List.isSome_find?, ← List.head?_filter]
  change (Except.ok (!(rows.filter (mapping.layout.isAt (freshTable mapping) owner key)).isEmpty),
    connection) = _
  cases rows.filter (mapping.layout.isAt (freshTable mapping) owner key) <;> rfl

end Holds

/-- After the rows of a pair have been removed, none is found. -/
theorem find?_remove {mapping : Mapping} {rows : List Row} (owner key : String) :
    (rows.filter fun row => !mapping.layout.isAt (freshTable mapping) owner key row).find?
      (mapping.layout.isAt (freshTable mapping) owner key) = none := by
  refine List.find?_eq_none.mpr fun row member here => ?_
  have kept := (List.mem_filter.mp member).2
  rw [here] at kept
  cases kept

/-- What a store shows of a pair with some number of rows: the key so many times among the keys
of the owner, so many of its entries, and the number where the pair is deleted. -/
structure Shows (meaning : PatternMeaning) (store : Store) (connection : Connection)
    (owner key : String) (count : Nat) : Prop where
  keys : ∃ keys, (store.keys owner).run (Connection.executor meaning) connection =
    (.ok keys, connection) ∧ keys.count key = count
  entries : ∃ entries, (store.entries owner).run (Connection.executor meaning) connection =
    (.ok entries, connection) ∧
    (entries.countP fun entry => entry.owner == owner && entry.key == key) = count
  delete : ((store.delete owner key).run (Connection.executor meaning) connection).1 = .ok count

/-- A store shows of a pair the rows that are at it. -/
theorem Holds.shows {meaning : PatternMeaning} {mapping : Mapping} {rows : List Row}
    {connection : Connection} (sound : mapping.Sound) (usable : mapping.Usable)
    (holds : Holds mapping rows connection) {owner key : String}
    (ownerTaken : Takes meaning owner) (keyTaken : Takes meaning key) :
    Shows meaning (Store.mk mapping) connection owner key
      (rows.countP (mapping.layout.isAt (freshTable mapping) owner key)) where
  keys := by
    refine ⟨_, holds.run_keys sound usable ownerTaken, ?_⟩
    rw [List.count_filterMap, List.countP_filter]
    congr 1
    funext row
    exact Bool.and_comm _ _
  entries := by
    refine ⟨_, holds.run_entries sound usable ownerTaken, ?_⟩
    rw [List.countP_map, List.countP_filter]
    refine List.countP_congr fun row member => ?_
    have admissible := holds.admissible row member
    obtain ⟨ownerText, ownerCell⟩ := Option.isSome_iff_exists.mp (admissible.present .owner)
    obtain ⟨keyText, keyCell⟩ := Option.isSome_iff_exists.mp (admissible.present .key)
    rw [Function.comp_apply, entryOf, Layout.isAt_iff, ownerCell, keyCell]
    simp only [Option.getD_some, Bool.and_eq_true, beq_iff_eq, Option.some.injEq]
    exact and_iff_left_of_imp And.left
  delete := by
    rw [(holds.delete_pair sound usable ownerTaken keyTaken).1.run]

end EntryStore.Store
