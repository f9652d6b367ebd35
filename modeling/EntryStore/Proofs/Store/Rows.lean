import EntryStore.Proofs.Query.Execution
import EntryStore.Proofs.Sql.Columns
import EntryStore.Proofs.Store.Bindings

/-!
# Rows of a pair

What storing a text for an owner and a key makes of the rows of a table: the rows of the pair get
the text as their value, and where there is none a row is appended.  The table may be any one in
which the primary columns of the fields are different columns (`Layout.Placed`).
-/

namespace EntryStore.Layout

open Sql (Table)

/-- A table has a column of its own for each field. -/
structure Placed (layout : Layout) (table : Table) : Prop where
  has : ∀ field, table.Has (layout.primaryOf field)
  apart : ∀ field other, table.positionOf (layout.primaryOf field) =
    table.positionOf (layout.primaryOf other) → field = other

variable (layout : Layout) (table : Table)

/-- Whether a row has an owner and a key. -/
def isAt (owner key : String) (row : Row) : Bool :=
  layout.cells table row .owner == some owner && layout.cells table row .key == some key

/-- Where the texts of a binding are put. -/
def bindingCells (binding : Binding) : List (Nat × String) :=
  Field.all.map fun field => (table.positionOf (layout.primaryOf field), binding.get field)

/-- The row of a binding. -/
def bindingRow (binding : Binding) : Row := table.newRow (layout.bindingCells table binding)

/-- A row with another text as its value. -/
def withValue (text : String) (row : Row) : Row :=
  row.set (table.positionOf (layout.primaryOf .value)) (some text)

/-- Rows of which those of a pair have another text as their value. -/
def rewriteRows (owner key text : String) (rows : List Row) : List Row :=
  rows.map fun row =>
    if layout.isAt table owner key row then layout.withValue table text row else row

/-- Rows after a text has been stored for a pair. -/
def storeRows (owner key text : String) (rows : List Row) : List Row :=
  if rows.countP (layout.isAt table owner key) = 0 then
    rows ++ [layout.bindingRow table ⟨owner, key, text⟩]
  else layout.rewriteRows table owner key text rows

variable {layout table} {owner key text : String} {row : Row} {rows : List Row}

theorem isAt_iff : layout.isAt table owner key row = true ↔
    layout.cells table row .owner = some owner ∧ layout.cells table row .key = some key := by
  rw [isAt, Bool.and_eq_true, beq_iff_eq, beq_iff_eq]

/-- The first cell that a projection of a field shows is the one of the field. -/
theorem head?_project {field : Field} (maps : layout.Maps field) (row : Row) :
    (table.project ([field].flatMap layout.columnsOf) row).head? =
      some (layout.cells table row field) := by
  obtain ⟨first, others, columns⟩ := List.exists_cons_of_ne_nil maps
  have primary : layout.primaryOf field = first := by
    rw [primaryOf, columns]
    rfl
  rw [List.flatMap_singleton, columns, cells, primary]
  rfl

/-! ## New rows -/

theorem lookup_bindingCells_of_ne {position : Nat} (binding : Binding)
    (elsewhere : ∀ field, table.positionOf (layout.primaryOf field) ≠ position) :
    (layout.bindingCells table binding).lookup position = none := by
  have differs : ∀ field, (position == table.positionOf (layout.primaryOf field)) = false :=
    fun field => beq_false_of_ne (Ne.symm (elsewhere field))
  unfold bindingCells Field.all
  simp only [List.map_cons, List.map_nil, List.lookup_cons, List.lookup_nil, differs]

section Placed

variable (placed : layout.Placed table)
include placed

theorem lookup_bindingCells (binding : Binding) (field : Field) :
    (layout.bindingCells table binding).lookup (table.positionOf (layout.primaryOf field)) =
      some (binding.get field) := by
  have apart : ∀ other, (table.positionOf (layout.primaryOf field) ==
      table.positionOf (layout.primaryOf other)) = decide (field = other) := by
    intro other
    rw [Bool.eq_iff_iff, beq_iff_eq, decide_eq_true_eq]
    exact ⟨placed.apart field other, fun same => same ▸ rfl⟩
  unfold bindingCells Field.all
  simp only [List.map_cons, List.map_nil, List.lookup_cons, apart]
  cases field <;> simp

/-- The primary columns hold the texts of a binding. -/
theorem cells_bindingRow (binding : Binding) (field : Field) :
    layout.cells table (layout.bindingRow table binding) field = some (binding.get field) := by
  have inside := Table.positionOf_lt_of_has (placed.has field)
  rw [cells, Table.cell, bindingRow, Table.getElem?_newRow inside, lookup_bindingCells placed]
  rfl

theorem isAt_bindingRow (binding : Binding) (owner key : String) :
    layout.isAt table owner key (layout.bindingRow table binding) = binding.isAt owner key := by
  rw [isAt, cells_bindingRow placed, cells_bindingRow placed, Option.some_beq_some,
    Option.some_beq_some]
  rfl

/-! ## Other values -/

theorem cells_withValue_value (filled : row.length = table.columns.length) (text : String) :
    layout.cells table (layout.withValue table text row) .value = some text := by
  have inside : table.positionOf (layout.primaryOf .value) < row.length :=
    filled ▸ Table.positionOf_lt_of_has (placed.has .value)
  rw [cells, Table.cell, withValue, List.getElem?_set_self inside]
  rfl

theorem cells_withValue_of_ne {field : Field} (differs : field ≠ .value) (text : String) :
    layout.cells table (layout.withValue table text row) field = layout.cells table row field := by
  have apart : table.positionOf (layout.primaryOf .value) ≠
      table.positionOf (layout.primaryOf field) :=
    fun same => differs (placed.apart _ _ same).symm
  rw [cells, Table.cell, withValue, List.getElem?_set_ne apart]
  rfl

/-- Another value in the row of a binding rebinds it. -/
theorem withValue_bindingRow (binding : Binding) (text : String) :
    layout.withValue table text (layout.bindingRow table binding) =
      layout.bindingRow table (binding.withText text) := by
  have inside := Table.positionOf_lt_of_has (placed.has .value)
  unfold withValue
  apply List.ext_getElem?
  intro position
  rw [List.getElem?_set, bindingRow, bindingRow, Table.length_newRow]
  by_cases same : table.positionOf (layout.primaryOf .value) = position
  · rw [if_pos same, if_pos (same ▸ inside), ← same, Table.getElem?_newRow inside,
      lookup_bindingCells placed]
    rfl
  · rw [if_neg same]
    by_cases within : position < table.columns.length
    · have other : (position == table.positionOf (layout.primaryOf .value)) = false :=
        beq_false_of_ne (Ne.symm same)
      rw [Table.getElem?_newRow within, Table.getElem?_newRow within]
      simp [bindingCells, Field.all, List.lookup_cons, other, Binding.withText, Binding.get]
    · rw [List.getElem?_eq_none (by rw [Table.length_newRow]; omega),
        List.getElem?_eq_none (by rw [Table.length_newRow]; omega)]

/-- Another value leaves a row with its owner and key. -/
theorem isAt_withValue (owner key text : String) :
    layout.isAt table owner key (layout.withValue table text row) =
      layout.isAt table owner key row := by
  rw [isAt, cells_withValue_of_ne placed Field.noConfusion,
    cells_withValue_of_ne placed Field.noConfusion]
  rfl

end Placed

/-! ## Stored rows -/

/-- Where no row is at a pair, giving its rows another value changes nothing. -/
theorem rewriteRows_of_absent (text : String)
    (absent : rows.countP (layout.isAt table owner key) = 0) :
    layout.rewriteRows table owner key text rows = rows := by
  have same : ∀ row ∈ rows, (if layout.isAt table owner key row then
      layout.withValue table text row else row) = row :=
    fun row member => if_neg (List.countP_eq_zero.mp absent row member)
  rw [rewriteRows, List.map_congr_left same, List.map_id']

/-- The first row at a pair holds the text that has been stored for it. -/
theorem find?_storeRows (placed : layout.Placed table)
    (filled : ∀ row ∈ rows, row.length = table.columns.length) (owner key text : String) :
    ((layout.storeRows table owner key text rows).find? (layout.isAt table owner key)).bind
      (layout.cells table · .value) = some text := by
  unfold storeRows
  split
  · next absent =>
      have unseen : rows.find? (layout.isAt table owner key) = none :=
        List.find?_eq_none.mpr (List.countP_eq_zero.mp absent)
      have new : layout.isAt table owner key (layout.bindingRow table ⟨owner, key, text⟩) = true :=
        (isAt_bindingRow placed _ owner key).trans (Binding.isAt_iff.mpr rfl)
      rw [List.find?_append, unseen, Option.none_or, List.find?_singleton, if_pos new]
      exact cells_bindingRow placed _ .value
  · next present =>
      obtain ⟨first, found⟩ : ∃ first, rows.find? (layout.isAt table owner key) = some first := by
        obtain ⟨row, member, here⟩ := List.countP_pos_iff.mp (Nat.pos_of_ne_zero present)
        exact Option.isSome_iff_exists.mp (List.find?_isSome.mpr ⟨row, member, here⟩)
      have kept : (layout.isAt table owner key ∘ fun row =>
          if layout.isAt table owner key row then layout.withValue table text row else row) =
          layout.isAt table owner key := by
        funext row
        rw [Function.comp_apply]
        split
        · exact isAt_withValue placed owner key text
        · rfl
      rw [rewriteRows, List.find?_map, kept, found, Option.map_some, Option.bind_some,
        if_pos (List.find?_some found)]
      exact cells_withValue_value placed (filled first (List.mem_of_find?_eq_some found)) text

end EntryStore.Layout
