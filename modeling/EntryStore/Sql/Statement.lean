import EntryStore.Filter

/-!
# Statements

The statements that queries are made into, and their text.  Values never stand in the
text: each has a placeholder, and the database binds parameters to placeholders from left
to right.
-/

namespace EntryStore.Sql

/-- The text in place of a value. -/
def placeholder : String := "?"

/-- The operator of every condition. -/
def matchOperator : String := "REGEXP"

/-- A condition in a statement: a column matches the next parameter. -/
structure Term where
  link : Link
  column : String
  deriving DecidableEq, Repr

/-- A column in the definition of a table; all columns hold text. -/
structure ColumnDefinition where
  name : String
  /-- a row has to have a cell for the column -/
  required : Bool
  deriving DecidableEq, Repr

/-- A statement. -/
inductive Statement where
  | select (columns : List String) (table : String) (clause : List Term)
  | update (table : String) (columns : List String) (clause : List Term)
  | delete (table : String) (clause : List Term)
  | insert (table : String) (columns : List String)
  /-- creates a table unless it exists -/
  | create (table : String) (columns : List ColumnDefinition)
  deriving DecidableEq, Repr

/-- Names with commas between them. -/
def commaSeparated (items : List String) : String := ", ".intercalate items

/-- The text of a condition, with its link in front. -/
def Term.print (term : Term) : String :=
  term.link.separator ++ term.column ++ " " ++ matchOperator ++ " " ++ placeholder

/-- The text of the conditions of a statement. -/
def printClause : List Term → String
  | [] => ""
  | terms => " WHERE " ++ String.join (terms.map Term.print)

/-- The text of a column definition. -/
def ColumnDefinition.print (column : ColumnDefinition) : String :=
  column.name ++ " TEXT" ++ (if column.required then " NOT NULL" else "")

namespace Statement

/-- The text of a statement. -/
def print : Statement → String
  | .select columns table clause =>
      "SELECT " ++ commaSeparated columns ++ " FROM " ++ table ++ printClause clause ++ ";"
  | .update table columns clause =>
      "UPDATE " ++ table ++ " SET " ++
        commaSeparated (columns.map fun column => column ++ " = " ++ placeholder) ++
        printClause clause ++ ";"
  | .delete table clause => "DELETE FROM " ++ table ++ printClause clause ++ ";"
  | .insert table columns =>
      "INSERT INTO " ++ table ++ " (" ++ commaSeparated columns ++ ") VALUES (" ++
        commaSeparated (columns.map fun _ => placeholder) ++ ");"
  | .create table columns =>
      "CREATE TABLE IF NOT EXISTS " ++ table ++ " (" ++
        commaSeparated (columns.map ColumnDefinition.print) ++ ");"

/-- How many cells each row of the result has. -/
def width : Statement → Nat
  | .select columns _ _ => columns.length
  | _ => 0

end Statement

/-- A statement as it is sent: its text, the parameters for its placeholders, and the number
of cells that each row of the result is to have. -/
structure Prepared where
  sql : String
  params : List String
  width : Nat
  deriving DecidableEq, Repr, Inhabited

namespace Prepared

/-- A statement with its parameters. -/
def of (statement : Statement) (params : List String) : Prepared :=
  ⟨statement.print, params, statement.width⟩

/-- How many question marks the text has. -/
def placeholders (prepared : Prepared) : Nat := prepared.sql.toList.count '?'

/-- The first characters of the text. -/
def preview (prepared : Prepared) (maxLength : Nat) : String :=
  String.ofList (prepared.sql.toList.take maxLength)

/-- How long a preview is unless its length is given. -/
def previewLength : Nat := 100

end Prepared

end EntryStore.Sql
