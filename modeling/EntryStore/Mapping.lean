import EntryStore.Field
import EntryStore.Identifier

/-!
# Mappings of fields to columns

A table holds each field of an entry in one or more columns.  The first of them is the
primary column: filters and assignments use it alone, projections use them all.  A
`Layout` is whatever a statement needs to know about a table; a `Mapping` is a layout whose
names have been checked.
-/

namespace EntryStore

/-- A table as statements see it: its name, and the columns of the mapped fields. -/
structure Layout where
  table : String
  columns : Field → Option (List String)

/-- A field that a table does not map. -/
structure Unmapped where
  field : Field
  table : String
  deriving DecidableEq, Repr

/-- How a missing field is reported. -/
def Unmapped.toError (missing : Unmapped) : Error := .unmapped missing.field.name missing.table

namespace Layout

/-- The columns of a field.  A field that is mapped to no column counts as not mapped. -/
def resolve (layout : Layout) (field : Field) : Except Unmapped (List String) :=
  match layout.columns field with
  | some (first :: others) => .ok (first :: others)
  | _ => .error ⟨field, layout.table⟩

/-- The primary column of a field. -/
def primary (layout : Layout) (field : Field) : Except Unmapped String :=
  match layout.columns field with
  | some (first :: _) => .ok first
  | _ => .error ⟨field, layout.table⟩

end Layout

/-- The checked names of a table and of the columns of its fields. -/
structure Mapping where
  table : String
  columns : PerField (Option (List String))
  deriving DecidableEq, Repr

namespace Mapping

/-- A mapping as statements see it. -/
def layout (mapping : Mapping) : Layout := ⟨mapping.table, mapping.columns.get⟩

/-- The fields that are mapped, in the order of their declaration. -/
def mappedFields (mapping : Mapping) : List Field :=
  Field.all.filter fun field => (mapping.columns.get field).isSome

/-- Names that have not been checked yet. -/
structure Draft where
  table : String
  columns : PerField (Option (List String))
  deriving DecidableEq, Repr

/-- Why a draft makes no mapping. -/
inductive Fault where
  | name (fault : Identifier.Fault)
  | noColumn (field : Field) (table : String)
  deriving DecidableEq, Repr

/-- The wording of a fault. -/
def Fault.message : Fault → String
  | .name fault => fault.message
  | .noColumn field table =>
      "Column " ++ field.name ++ " of table " ++ table ++ " maps to no physical column"

/-- How a faulty draft is reported. -/
def Fault.toError (fault : Fault) : Error := .validation fault.message

namespace Draft

/-- A draft without fields. -/
def new (table : String) : Draft := ⟨table, .replicate none⟩

/-- Maps a field to columns, replacing what it was mapped to. -/
def map (draft : Draft) (field : Field) (columns : List String) : Draft :=
  { draft with columns := draft.columns.set field (some columns) }

/-- Maps several fields, one after the other. -/
def mapAll (draft : Draft) (entries : List (Field × List String)) : Draft :=
  entries.foldl (fun draft (field, columns) => draft.map field columns) draft

/-- A name in normal form. -/
def acceptName (normalize : String → String) (name : String) : Except Fault String :=
  (Identifier.accept normalize name).mapError .name

/-- The columns of one field in normal form; an empty list is refused. -/
def acceptColumns (normalize : String → String) (table : String) (field : Field)
    (columns? : Option (List String)) : Except Fault (Option (List String)) :=
  match columns? with
  | none => .ok none
  | some [] => .error (.noColumn field table)
  | some columns => do return some (← columns.mapM (acceptName normalize))

/-- Checks all names: first that of the table, then the columns in the order of the fields. -/
def build (normalize : String → String) (draft : Draft) : Except Fault Mapping := do
  let table ← acceptName normalize draft.table
  let owner ← acceptColumns normalize table .owner draft.columns.owner
  let key ← acceptColumns normalize table .key draft.columns.key
  let value ← acceptColumns normalize table .value draft.columns.value
  return ⟨table, ⟨owner, key, value⟩⟩

end Draft

/-- The mapping with one column for each field. -/
def standard (normalize : String → String) (table : String) : Except Fault Mapping :=
  ((((Draft.new table).map .owner ["total_id"]).map .key ["meta_key"]).map .value
    ["meta_value"]).build normalize

end Mapping

end EntryStore
