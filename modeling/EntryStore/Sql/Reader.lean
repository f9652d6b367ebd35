import EntryStore.Sql.Statement

/-!
# Reading statements

The text of a statement is read back by the grammar in which it is written:

    SELECT  names FROM name clause ;
    UPDATE  name SET name = ? , … clause ;
    DELETE FROM  name clause ;
    INSERT INTO  name ( names ) VALUES ( ? , … ) ;
    CREATE TABLE IF NOT EXISTS  name ( name TEXT, name TEXT NOT NULL, … ) ;

where a clause is empty or ` WHERE ` with conditions `name REGEXP ?` linked by ` AND ` and
` OR `.  Names are made of letters, digits, underscores and points.

Every such word stands for a name here, also one that the database keeps for itself and does not
take for a name (`default`, `primary`, `check`) or reads as an expression (`current_date`).
-/

namespace EntryStore.Sql

/-- A character of a name, which may be qualified. -/
def isNameChar (c : Char) : Bool := c.isAlphanum || c == '_' || c == '.'

/-- The rest of a text after an expected beginning. -/
def expect (expected : List Char) (text : List Char) : Option (List Char) :=
  match expected, text with
  | [], rest => some rest
  | _ :: _, [] => none
  | c :: expected, d :: rest => if c = d then expect expected rest else none

/-- Reads a name, as long as it goes. -/
def readName (text : List Char) : Option (String × List Char) :=
  match text.takeWhile isNameChar with
  | [] => none
  | name => some (String.ofList name, text.dropWhile isNameChar)

/-- Reads items with commas between them.  The fuel bounds their number. -/
def readSeparated {α : Type} (item : List Char → Option (α × List Char)) :
    (fuel : Nat) → List Char → Option (List α × List Char)
  | 0, _ => none
  | fuel + 1, text => do
      let (first, rest) ← item text
      match expect ", ".toList rest with
      | none => return ([first], rest)
      | some rest =>
          let (others, rest) ← readSeparated item fuel rest
          return (first :: others, rest)

/-- Reads a list of items that is not empty. -/
def readList {α : Type} (item : List Char → Option (α × List Char)) (text : List Char) :
    Option (List α × List Char) := readSeparated item (text.length + 1) text

/-- Reads a placeholder. -/
def readPlaceholder (text : List Char) : Option (Unit × List Char) := do
  return ((), ← expect placeholder.toList text)

/-- Reads the assignment of a placeholder to a column. -/
def readAssignment (text : List Char) : Option (String × List Char) := do
  let (column, rest) ← readName text
  return (column, ← expect " = ?".toList rest)

/-- Reads the condition on a column. -/
def readCondition (text : List Char) : Option (String × List Char) := do
  let (column, rest) ← readName text
  return (column, ← expect " REGEXP ?".toList rest)

/-- Reads a link between conditions. -/
def readLink (text : List Char) : Option (Link × List Char) :=
  match expect Link.and.separator.toList text with
  | some rest => some (.and, rest)
  | none =>
      match expect Link.or.separator.toList text with
      | some rest => some (.or, rest)
      | none => none

/-- Reads linked conditions after the first.  The fuel bounds their number. -/
def readTerms : (fuel : Nat) → List Char → Option (List Term × List Char)
  | 0, _ => none
  | fuel + 1, text =>
      match readLink text with
      | none => some ([], text)
      | some (link, rest) => do
          let (column, rest) ← readCondition rest
          let (others, rest) ← readTerms fuel rest
          return (⟨link, column⟩ :: others, rest)

/-- Reads a clause, if there is one. -/
def readClause (text : List Char) : Option (List Term × List Char) :=
  match expect " WHERE ".toList text with
  | none => some ([], text)
  | some rest => do
      let (column, rest) ← readCondition rest
      let (others, rest) ← readTerms (rest.length + 1) rest
      return (⟨.init, column⟩ :: others, rest)

/-- Reads a column definition. -/
def readDefinition (text : List Char) : Option (ColumnDefinition × List Char) := do
  let (name, rest) ← readName text
  let rest ← expect " TEXT".toList rest
  match expect " NOT NULL".toList rest with
  | some rest => return (⟨name, true⟩, rest)
  | none => return (⟨name, false⟩, rest)

/-- Reads the rest of a selection. -/
def readSelect (text : List Char) : Option (Statement × List Char) := do
  let (columns, rest) ← readList readName text
  let (table, rest) ← readName (← expect " FROM ".toList rest)
  let (clause, rest) ← readClause rest
  return (.select columns table clause, rest)

/-- Reads the rest of an update. -/
def readUpdate (text : List Char) : Option (Statement × List Char) := do
  let (table, rest) ← readName text
  let (columns, rest) ← readList readAssignment (← expect " SET ".toList rest)
  let (clause, rest) ← readClause rest
  return (.update table columns clause, rest)

/-- Reads the rest of a deletion. -/
def readDelete (text : List Char) : Option (Statement × List Char) := do
  let (table, rest) ← readName text
  let (clause, rest) ← readClause rest
  return (.delete table clause, rest)

/-- Reads the rest of an insertion, which has as many placeholders as columns. -/
def readInsert (text : List Char) : Option (Statement × List Char) := do
  let (table, rest) ← readName text
  let (columns, rest) ← readList readName (← expect " (".toList rest)
  let (values, rest) ← readList readPlaceholder (← expect ") VALUES (".toList rest)
  let rest ← expect ")".toList rest
  if values.length = columns.length then return (.insert table columns, rest) else none

/-- Reads the rest of the creation of a table. -/
def readCreate (text : List Char) : Option (Statement × List Char) := do
  let (table, rest) ← readName text
  let (columns, rest) ← readList readDefinition (← expect " (".toList rest)
  return (.create table columns, ← expect ")".toList rest)

/-- The beginnings of statements, and how each goes on. -/
def statementForms : List (String × (List Char → Option (Statement × List Char))) :=
  [("SELECT ", readSelect), ("UPDATE ", readUpdate), ("DELETE FROM ", readDelete),
   ("INSERT INTO ", readInsert), ("CREATE TABLE IF NOT EXISTS ", readCreate)]

/-- Reads a statement, which has to fill the text. -/
def Statement.read? (sql : String) : Option Statement :=
  statementForms.findSome? fun (beginning, form) => do
    let (statement, rest) ← form (← expect beginning.toList sql.toList)
    if rest = [';'] then some statement else none

end EntryStore.Sql
