import EntryStore.Program
import EntryStore.Sql.Condition
import EntryStore.Sql.Failure
import EntryStore.Sql.Reader
import EntryStore.Sql.ResultSet

/-!
# The database

A database holds tables, and a table rows in the order in which they were inserted.  All
columns hold text or nothing, as those do that are declared here: there are no other types, no
default values and no keys.  The number of columns and the length of texts have no limit.  Names
are compared without regard to the case of ASCII letters, and the schema `main` may be written or
left out.  A statement that fails changes nothing.
-/

namespace EntryStore.Sql

/-- A table with its rows; each row has a cell for each column. -/
structure Table where
  name : String
  columns : List ColumnDefinition
  rows : List (List (Option String))
  deriving DecidableEq, Repr

/-- The tables of a database. -/
structure Database where
  tables : List Table
  deriving DecidableEq, Repr, Inhabited

/-- Why a statement is refused. -/
inductive Refusal where
  | noTable (name : String)
  | noSchema (schema : String)
  | noColumn (name : String)
  | noColumnToInsert (table column : String)
  | duplicateColumn (name : String)
  | syntaxNear (token : String)
  | missingCell (table column : String)
  /-- a row was compared with a malformed pattern -/
  | malformedPattern
  /-- the database may not change -/
  | readOnly
  deriving DecidableEq, Repr

namespace Refusal

/-- The wording of a refusal. -/
def text : Refusal → String
  | .noTable name => "no such table: " ++ name
  | .noSchema schema => "unknown database " ++ schema
  | .noColumn name => "no such column: " ++ name
  | .noColumnToInsert table column => "table " ++ table ++ " has no column named " ++ column
  | .duplicateColumn name => "duplicate column name: " ++ name
  | .syntaxNear token => "near \"" ++ token ++ "\": syntax error"
  | .missingCell table column => "NOT NULL constraint failed: " ++ table ++ "." ++ column
  | .malformedPattern => "constraint failed"
  | .readOnly => "attempt to write a readonly database"

/-- The result code of a refusal. -/
def code : Refusal → Nat
  | .missingCell _ _ => 1299
  | .malformedPattern => 1043
  | .readOnly => 8
  | _ => 1

/-- Whether a statement is refused only when it comes to a row. -/
def isLate : Refusal → Bool
  | .missingCell _ _ | .malformedPattern => true
  | _ => false

/-- A refusal as the driver reports it. -/
def toFailure (refusal : Refusal) : Failure := .database refusal.code refusal.text

end Refusal

/-- What a statement answers. -/
inductive Outcome where
  | rows (rows : List (List (Option String)))
  | affected (count : Nat)
  deriving DecidableEq, Repr

/-! ## Names -/

/-- A name in lower case, by which names are compared. -/
def foldName (name : String) : String := String.ofList (name.toList.map Char.toLower)

/-- Whether two names are the same to the database. -/
def sameName (left right : String) : Bool := foldName left == foldName right

/-- The parts of a name before and after its point. -/
def splitName (name : String) : Option String × String :=
  match name.toList.span (· != '.') with
  | (schema, _ :: table) => (some (String.ofList schema), String.ofList table)
  | (_, []) => (none, name)

/-- A name written with a point. -/
def isQualified (name : String) : Bool := (splitName name).1.isSome

/-- The schema in which tables are kept. -/
def mainSchema : String := "main"

/-! ## Tables -/

namespace Table

/-- The position of a column, written alone or after the name of the table. -/
def position? (table : Table) (column : String) : Option Nat :=
  match splitName column with
  | (none, name) => table.columns.findIdx? fun definition => sameName definition.name name
  | (some qualifier, name) =>
      if sameName qualifier table.name then
        table.columns.findIdx? fun definition => sameName definition.name name
      else none

/-- The position of a column, which has to exist. -/
def position (table : Table) (column : String) : Except Refusal Nat :=
  match table.position? column with
  | some position => .ok position
  | none => .error (.noColumn column)

/-- Resolves the terms of a clause and binds parameters to them. -/
def condition (table : Table) (clause : List Term) (params : List String) :
    Except Refusal (Option Condition) := do
  let leaves ← (clause.zip params).mapM fun (term, param) => do
    return (term.link, ← table.position term.column, param)
  return Condition.ofLeaves leaves

/-- Whether a row passes an optional condition. -/
def admits (meaning : PatternMeaning) (condition : Option Condition)
    (row : List (Option String)) : Except Refusal Bool :=
  match condition with
  | none => .ok true
  | some condition =>
      match condition.holds meaning row with
      | some passes => .ok passes
      | none => .error .malformedPattern

/-- The rows of a table, each with whether it passes a condition. -/
def marked (table : Table) (meaning : PatternMeaning) (condition : Option Condition) :
    Except Refusal (List (List (Option String) × Bool)) :=
  table.rows.mapM fun row => do return (row, ← admits meaning condition row)

/-- A row with some cells overwritten; of several texts for one cell the last one counts. -/
def overwrite (row : List (Option String)) (cells : List (Nat × String)) :
    List (Option String) :=
  cells.foldl (fun row (position, text) => row.set position (some text)) row

/-- The row of an insertion; of several texts for one column the first one counts, and columns
without a text are missing. -/
def newRow (table : Table) (cells : List (Nat × String)) : List (Option String) :=
  (List.range table.columns.length).map fun position => cells.lookup position

/-- The first column that a row leaves out although it is required. -/
def missing? (table : Table) (row : List (Option String)) : Option ColumnDefinition :=
  ((table.columns.zip row).find? fun (column, cell) => column.required && cell.isNone).map (·.1)

end Table

namespace Database

/-- A database without tables. -/
def empty : Database := ⟨[]⟩

/-- The table of a name. -/
def find? (database : Database) (name : String) : Option Table :=
  let (schema?, table) := splitName name
  if schema?.all (sameName mainSchema) then
    database.tables.find? fun candidate => sameName candidate.name table
  else none

/-- The table of a name, which has to exist. -/
def find (database : Database) (name : String) : Except Refusal Table :=
  match database.find? name with
  | some table => .ok table
  | none => .error (.noTable name)

/-- Replaces the table of the same name. -/
def replace (database : Database) (table : Table) : Database :=
  ⟨database.tables.map fun other => if sameName other.name table.name then table else other⟩

/-- Checks the columns of a new table in the order of their definitions. -/
def checkDefinitions (earlier : List String) : List ColumnDefinition → Except Refusal Unit
  | [] => .ok ()
  | column :: rest =>
      if isQualified column.name then .error (.syntaxNear ".")
      else if earlier.any (sameName column.name) then .error (.duplicateColumn column.name)
      else checkDefinitions (column.name :: earlier) rest

/-- Refuses names with a point where only the column of the statement's table can stand. -/
def checkPlain (columns : List String) : Except Refusal Unit :=
  if columns.any isQualified then .error (.syntaxNear ".") else .ok ()

/-- Creates a table unless it exists. -/
def create (database : Database) (name : String) (columns : List ColumnDefinition) :
    Except Refusal Database :=
  let (schema?, table) := splitName name
  match schema? with
  | some schema =>
      if sameName schema mainSchema then createHere table else .error (.noSchema schema)
  | none => createHere table
where
  createHere (table : String) : Except Refusal Database :=
    if database.tables.any fun other => sameName other.name table then do
      checkPlain (columns.map (·.name))
      return database
    else do
      checkDefinitions [] columns
      return ⟨database.tables ++ [⟨table, columns, []⟩]⟩

/-- Executes a statement. -/
def execute (meaning : PatternMeaning) (database : Database) (statement : Statement)
    (params : List String) : Except Refusal (Outcome × Database) :=
  match statement with
  | .create name columns => do
      return (.affected 0, ← database.create name columns)
  | .select columns name clause => do
      let table ← database.find name
      let positions ← columns.mapM table.position
      let marked ← table.marked meaning (← table.condition clause params)
      let selected := marked.filterMap fun (row, passes) =>
        if passes then some (positions.map fun position => row[position]?.join) else none
      return (.rows selected, database)
  | .update name columns clause => do
      checkPlain columns
      let table ← database.find name
      let positions ← columns.mapM table.position
      let condition ← table.condition clause (params.drop columns.length)
      let marked ← table.marked meaning condition
      let cells := positions.zip params
      let rows := marked.map fun (row, passes) => if passes then Table.overwrite row cells else row
      return (.affected (marked.countP (·.2)), database.replace { table with rows := rows })
  | .delete name clause => do
      let table ← database.find name
      let marked ← table.marked meaning (← table.condition clause params)
      let rows := marked.filterMap fun (row, passes) => if passes then none else some row
      return (.affected (marked.countP (·.2)), database.replace { table with rows := rows })
  | .insert name columns => do
      checkPlain columns
      let table ← database.find name
      let positions ← columns.mapM fun column =>
        match table.position? column with
        | some position => .ok position
        | none => .error (.noColumnToInsert name column)
      let row := table.newRow (positions.zip params)
      match table.missing? row with
      | some column => .error (.missingCell table.name column.name)
      | none => return (.affected 1, database.replace { table with rows := table.rows ++ [row] })

/-- Executes a statement on a database that may not change.  A sound statement that would
write is refused before it comes to any row; a table that exists need not be created. -/
def executeReadOnly (meaning : PatternMeaning) (database : Database) (statement : Statement)
    (params : List String) : Except Refusal (Outcome × Database) :=
  match statement, database.execute meaning statement params with
  | .select _ _ _, result => result
  | .create _ _, .ok (outcome, after) =>
      if after = database then .ok (outcome, database) else .error .readOnly
  | _, .ok _ => .error .readOnly
  | _, .error refusal => .error (if refusal.isLate then .readOnly else refusal)

/-- A way of executing statements. -/
abbrev Execution := Database → Statement → List String → Except Refusal (Outcome × Database)

/-- Executes the text of a statement. -/
def run (execution : Execution) (database : Database) (prepared : Prepared) :
    Except Refusal (Outcome × Database) :=
  match Statement.read? prepared.sql with
  | some statement => execution database statement prepared.params
  | none => .error (.syntaxNear prepared.sql)

end Database

end EntryStore.Sql
