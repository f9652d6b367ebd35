import EntryStore.Program
import EntryStore.Query.Compile

/-!
# The entry store

A store keeps entries in one table: each has an owner, a key and a value, which is text or
missing.  Owner and key identify an entry; they are looked up as literals that match the
whole cell.  Values other than text are kept as JSON text.
-/

namespace EntryStore

open Sql (Prepared)

/-- A stored entry. -/
structure Entry where
  owner : String
  key : String
  value : Option String
  deriving DecidableEq, Repr

/-- A store over the table of a mapping. -/
structure Store where
  mapping : Mapping
  deriving Repr

namespace Store

/-- The store of a mapping, which has to map every field. -/
def ofMapping (mapping : Mapping) : Except Unmapped Store := do
  for field in Field.all do
    discard (mapping.layout.resolve field)
  return ⟨mapping⟩

/-- The column definitions of a table.  A column that serves several fields, or one field
several times, is defined where it comes first, and is required if it is a primary column
there. -/
def definitions (columns : List (List String)) : List Sql.ColumnDefinition :=
  let named := columns.flatMap fun names =>
    names.zipIdx.map fun (name, index) => (⟨name, index == 0⟩ : Sql.ColumnDefinition)
  named.foldl (fun definitions column =>
    if definitions.any (·.name == column.name) then definitions else definitions ++ [column]) []

/-- The statement that creates the table of a layout. -/
def tableStatement (layout : Layout) : Except Unmapped Sql.Statement := do
  return .create layout.table (definitions (← Field.all.mapM layout.resolve))

variable (store : Store)

/-- Makes a query into a statement of the store's table. -/
def prepare (query : Except Defect Query) : Except Error Prepared :=
  Except.mapError Defect.toError do (← query).compile store.mapping.layout

/-- Runs a selection. -/
def rows (query : Except Defect Query) : Program (List Row) :=
  match store.prepare query with
  | .ok prepared => .rowsOf prepared
  | .error error => .fail error

/-- Runs a query that changes rows. -/
def affected (query : Except Defect Query) : Program Nat :=
  match store.prepare query with
  | .ok prepared => .countOf prepared
  | .error error => .fail error

/-- Restricts an action to the entries of an owner. -/
def ofOwner (action : Action) (owner : String) : Except Defect Query := do
  let pattern := Anchoring.full.anchor (Pattern.escape owner)
  return .act action (← Filter.start .owner (.text pattern))

/-- Restricts an action to the entries of an owner under a key. -/
def ofPair (action : Action) (owner key : String) : Except Defect Query := do
  let ownerPattern := Anchoring.full.anchor (Pattern.escape owner)
  let keyPattern := Anchoring.full.anchor (Pattern.escape key)
  let filter ← Filter.start .owner (.text ownerPattern)
  return .act action (← filter.push .key (.text keyPattern) .and)

/-- Creates the table unless it exists. -/
def ensureTable : Program Unit :=
  match tableStatement store.mapping.layout with
  | .ok statement => do discard (.countOf (.of statement []))
  | .error missing => .fail missing.toError

/-- The text stored for an owner under a key. -/
def getString (owner key : String) : Program (Option String) := do
  let rows ← store.rows (ofPair (.select [.value]) owner key)
  return (rows.head?.bind List.head?).join

/-- Whether an entry exists for an owner under a key. -/
def contains (owner key : String) : Program Bool := do
  let rows ← store.rows (ofPair (.select [.key]) owner key)
  return !rows.isEmpty

/-- Removes the entry of an owner under a key and returns how many rows it had. -/
def delete (owner key : String) : Program Nat :=
  store.affected (ofPair .delete owner key)

/-- Removes all entries of an owner and returns how many there were. -/
def purge (owner : String) : Program Nat :=
  store.affected (ofOwner .delete owner)

/-- The query that updates the value of an entry. -/
def updateQuery (owner key : String) (value : Value) : Except Defect Query := do
  ofPair (.update [← Assignment.of .value value]) owner key

/-- The query that inserts an entry. -/
def insertQuery (owner key : String) (value : Value) : Except Defect Query := do
  return .insert [← Assignment.of .owner (.text owner), ← Assignment.of .key (.text key),
    ← Assignment.of .value value]

/-- Stores a value: updates the entry, and inserts one where nothing was updated. -/
def setValue (owner key : String) (value : Value) : Program Unit := do
  let updated ← store.affected (updateQuery owner key value)
  if updated = 0 then discard (store.affected (insertQuery owner key value))

/-- Stores a text, or removes the entry. -/
def setString (owner key : String) (text? : Option String) : Program Unit :=
  match text? with
  | some text => store.setValue owner key (.text text)
  | none => do discard (store.delete owner key)

/-- Stores a document as JSON text. -/
def setObject (owner key : String) (document : Json) : Program Unit :=
  store.setValue owner key (.json document)

/-- Stores a list of documents, or removes the entry. -/
def setList (owner key : String) (elements? : Option (List Json)) : Program Unit :=
  match elements? with
  | some elements => store.setObject owner key (.array elements)
  | none => do discard (store.delete owner key)

/-- Stores a list of texts, or removes the entry. -/
def setStringList (owner key : String) (texts? : Option (List String)) : Program Unit :=
  store.setList owner key (texts?.map (·.map Json.string))

/-- The keys stored for an owner, in the order of the rows.  A missing key is left out. -/
def keys (owner : String) : Program (List String) := do
  let rows ← store.rows (ofOwner (.select [.key]) owner)
  return rows.filterMap fun row => row.head?.join

/-- Why a row is no entry. -/
inductive RowFault where
  | noCell (position : Nat)
  | null (field : Field)
  deriving DecidableEq, Repr

/-- How a row that is no entry is reported. -/
def RowFault.toError : RowFault → Error
  | .noCell position => .deserialization ("Row has no cell at position " ++ toString position)
  | .null field => .deserialization ("Column " ++ field.name ++ " is NULL")

/-- The cell at a position of a row. -/
def cell (row : Row) (position : Nat) : Except RowFault (Option String) :=
  match row[position]? with
  | some content => .ok content
  | none => .error (.noCell position)

/-- The text at a position of a row, which has to be there. -/
def requiredCell (row : Row) (position : Nat) (field : Field) : Except RowFault String := do
  match ← cell row position with
  | some text => return text
  | none => .error (.null field)

/-- Reads an entry off a row that holds the columns of all fields, given the positions of the
primary columns of key and value. -/
def entryOfRow (keyAt valueAt : Nat) (row : Row) : Except RowFault Entry := do
  let owner ← requiredCell row 0 .owner
  let key ← requiredCell row keyAt .key
  let value ← cell row valueAt
  return ⟨owner, key, value⟩

/-- The positions of the primary columns of key and value in the projection of all fields. -/
def offsets (layout : Layout) : Except Unmapped (Nat × Nat) := do
  let keyAt := (← layout.resolve .owner).length
  return (keyAt, keyAt + (← layout.resolve .key).length)

/-- The entries in which a field matches a pattern. -/
def find (field : Field) (pattern : String) (anchoring : Anchoring) : Program (List Entry) := do
  let rows ← store.rows (Query.find field pattern anchoring)
  match offsets store.mapping.layout with
  | .error missing => .fail missing.toError
  | .ok (keyAt, valueAt) =>
      .ofExcept ((rows.mapM (entryOfRow keyAt valueAt)).mapError RowFault.toError)

/-- All entries of an owner. -/
def entries (owner : String) : Program (List Entry) :=
  store.find .owner (Pattern.escape owner) .full

end Store

end EntryStore
