import EntryStore.Json.Basic
import EntryStore.Sql.Database

/-!
# Databases as documents

The document in which a database is kept between runs, and reading it back.  Main statement:
what is written is read back as it was.
-/

namespace EntryStore.Sql

namespace ColumnDefinition

/-- A column definition as a document. -/
def toJson (column : ColumnDefinition) : Json :=
  .array [.string column.name, .bool column.required]

/-- The column definition that a document describes. -/
def ofJson? : Json → Option ColumnDefinition
  | .array [.string name, .bool required] => some ⟨name, required⟩
  | _ => none

@[simp] theorem ofJson?_toJson (column : ColumnDefinition) :
    ofJson? column.toJson = some column := rfl

end ColumnDefinition

/-- A cell as a document. -/
def cellToJson : Option String → Json
  | some text => .string text
  | none => .null

/-- The cell that a document describes. -/
def cellOfJson? : Json → Option (Option String)
  | .string text => some (some text)
  | .null => some none
  | _ => none

@[simp] theorem cellOfJson?_cellToJson (cell : Option String) :
    cellOfJson? (cellToJson cell) = some cell := by
  cases cell <;> rfl

/-- A list as a document. -/
def listToJson {α : Type} (element : α → Json) (list : List α) : Json := .array (list.map element)

/-- The list that a document describes. -/
def listOfJson? {α : Type} (element : Json → Option α) : Json → Option (List α)
  | .array elements => elements.mapM element
  | _ => none

theorem listOfJson?_listToJson {α : Type} {write : α → Json} {read : Json → Option α}
    (inverse : ∀ item, read (write item) = some item) (list : List α) :
    listOfJson? read (listToJson write list) = some list := by
  simp only [listOfJson?, listToJson]
  induction list with
  | nil => rfl
  | cons item rest ih => simp [inverse, ih]

namespace Table

/-- A table as a document. -/
def toJson (table : Table) : Json :=
  .array [.string table.name, listToJson ColumnDefinition.toJson table.columns,
    listToJson (listToJson cellToJson) table.rows]

/-- The table that a document describes. -/
def ofJson? : Json → Option Table
  | .array [.string name, columns, rows] => do
      return ⟨name, ← listOfJson? ColumnDefinition.ofJson? columns,
        ← listOfJson? (listOfJson? cellOfJson?) rows⟩
  | _ => none

@[simp] theorem ofJson?_toJson (table : Table) : ofJson? table.toJson = some table := by
  have columns := listOfJson?_listToJson ColumnDefinition.ofJson?_toJson table.columns
  have rows := listOfJson?_listToJson
    (listOfJson?_listToJson cellOfJson?_cellToJson) table.rows
  simp [ofJson?, toJson, columns, rows]

end Table

namespace Database

/-- A database as a document. -/
def toJson (database : Database) : Json := listToJson Table.toJson database.tables

/-- The database that a document describes. -/
def ofJson? (document : Json) : Option Database :=
  (listOfJson? Table.ofJson? document).map Database.mk

/-- A database is read back as it was written. -/
theorem ofJson?_toJson (database : Database) : ofJson? database.toJson = some database := by
  simp [ofJson?, toJson, listOfJson?_listToJson Table.ofJson?_toJson]

end Database

end EntryStore.Sql
