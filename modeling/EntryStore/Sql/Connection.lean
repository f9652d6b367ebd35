import EntryStore.Sql.Database

/-!
# Connections

A connection sends statements to a database until it is closed.
-/

namespace EntryStore.Sql

/-- A database and whether the connection to it is open. -/
structure Connection where
  database : Database
  isOpen : Bool
  deriving Repr

namespace Connection

/-- An open connection to a database. -/
def of (database : Database) : Connection := ⟨database, true⟩

/-- Closes a connection. -/
def close (connection : Connection) : Connection := { connection with isOpen := false }

/-- Asks whether the database answers. -/
def ping (connection : Connection) : Except Error Unit :=
  if connection.isOpen then .ok () else .error Failure.poolClosed.toError

/-- Sends a statement. -/
def send (execution : Database.Execution) (prepared : Prepared) (connection : Connection) :
    Except Error Outcome × Connection :=
  if connection.isOpen then
    match connection.database.run execution prepared with
    | .ok (outcome, database) => (.ok outcome, { connection with database := database })
    | .error refusal => (.error refusal.toFailure.toError, connection)
  else (.error Failure.poolClosed.toError, connection)

/-- The rows of an outcome, read to the width that a statement expects. -/
def rowsOf (width : Nat) : Outcome → Except Error (List Row)
  | .rows rows => decodeRows width (rows.map (·.map Cell.ofText?))
  | .affected _ => .ok []

/-- The number of rows that a statement changed. -/
def countOf : Outcome → Nat
  | .rows _ => 0
  | .affected count => count

/-- The executor over a connection on which statements are executed in a given way. -/
def executorBy (execution : Database.Execution) : Executor Connection where
  fetch := fun prepared connection =>
    let (outcome, connection) := connection.send execution prepared
    (outcome >>= rowsOf prepared.width, connection)
  execute := fun prepared connection =>
    let (outcome, connection) := connection.send execution prepared
    (outcome.map countOf, connection)

/-- The executor over a connection. -/
def executor (meaning : PatternMeaning) : Executor Connection :=
  executorBy (Database.execute meaning)

/-- The executor over a connection to a database that may not change. -/
def readOnlyExecutor (meaning : PatternMeaning) : Executor Connection :=
  executorBy (Database.executeReadOnly meaning)

end Connection

end EntryStore.Sql
