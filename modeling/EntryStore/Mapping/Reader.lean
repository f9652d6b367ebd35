import EntryStore.Mapping

/-!
# Mappings as JSON

A mapping is written as an object with the name of the table and, by field, the names of
the columns.  A text of the right form whose names break the rules is refused with the
words of the rule.
-/

namespace EntryStore.Mapping

/-- The fields of the written form that have been read. -/
structure Pieces where
  table : Option String
  columns : Option (List (Field × List String))

/-- The written form. -/
def record : Json.RecordReader Pieces Draft where
  title := "struct RawTableMapping"
  fields :=
    [{ name := "table"
       bound := fun pieces => pieces.table.isSome
       read := fun depth text => do
         let (table, rest) ← Json.Decoder.string.read depth text
         return (fun pieces => { pieces with table := some table }, rest) },
     { name := "columns"
       bound := fun pieces => pieces.columns.isSome
       read := fun depth text => do
         let (columns, rest) ←
           Json.mapOf (Field.decoder.read depth) (Json.Decoder.list .string).read depth text
         return (fun pieces => { pieces with columns := some columns }, rest) }]
  empty := ⟨none, none⟩
  finish := fun pieces =>
    match pieces.table, pieces.columns with
    | none, _ => .error (.missingField "table")
    | _, none => .error (.missingField "columns")
    | some table, some columns => .ok ((Draft.new table).mapAll columns)

/-- Mappings are read as drafts and checked. -/
def decoder (normalize : String → String) : Json.Decoder Mapping :=
  (Json.Decoder.ofRecord record).filterMap fun draft =>
    (draft.build normalize).mapError fun fault => fault.toError.message

/-- The mapping that a JSON text describes. -/
def ofJson (normalize : String → String) (text : String) : Except Error Mapping :=
  ((decoder normalize).decode text).mapError fun fault => .deserialization (fault.report text)

end EntryStore.Mapping
