import EntryStore.Error

/-!
# Failures of the database driver

What can go wrong between a program and its database, with the wording of each failure and
the class of error under which it is reported.
-/

namespace EntryStore.Sql

/-- A failure reported by the driver. -/
inductive Failure where
  /-- the database refused a statement, with its result code -/
  | database (code : Nat) (text : String)
  | configuration (text : String)
  | invalidArgument (text : String)
  | io (text : String)
  | tls (text : String)
  | protocol (text : String)
  | rowNotFound
  | typeNotFound (name : String)
  | columnIndexOutOfBounds (index length : Nat)
  | columnNotFound (name : String)
  | columnDecode (index : Nat) (text : String)
  | encode (text : String)
  | decode (text : String)
  | poolTimedOut
  | poolClosed
  | workerCrashed
  deriving DecidableEq, Repr

namespace Failure

/-- The wording of a failure. -/
def message : Failure → String
  | .database code text =>
      "error returned from database: (code: " ++ toString code ++ ") " ++ text
  | .configuration text => "error with configuration: " ++ text
  | .invalidArgument text => text
  | .io text => "error communicating with database: " ++ text
  | .tls text => "error occurred while attempting to establish a TLS connection: " ++ text
  | .protocol text => "encountered unexpected or invalid data: " ++ text
  | .rowNotFound => "no rows returned by a query that expected to return at least one row"
  | .typeNotFound name => "type named " ++ name ++ " not found"
  | .columnIndexOutOfBounds index length =>
      "column index out of bounds: the len is " ++ toString length ++ ", but the index is " ++
        toString index
  | .columnNotFound name => "no column found for name: " ++ name
  | .columnDecode index text =>
      "error occurred while decoding column " ++ toString index ++ ": " ++ text
  | .encode text => "error occurred while encoding a value: " ++ text
  | .decode text => "error occurred while decoding: " ++ text
  | .poolTimedOut => "Connection pool timed out"
  | .poolClosed => "Connection pool closed"
  | .workerCrashed => "attempted to communicate with a crashed background worker"

/-- The result codes of a database that is busy or locked. -/
def waitingCodes : List Nat := [5, 6]

/-- The result code of a database file that cannot be opened. -/
def cannotOpenCode : Nat := 14

/-- The error under which a failure is reported. -/
def toError (failure : Failure) : Error :=
  match failure with
  | .database code _ =>
      if code ∈ waitingCodes then .timeout failure.message
      else if code = cannotOpenCode then .connection failure.message
      else .backend failure.message
  | .configuration _ | .io _ | .tls _ | .protocol _ | .poolClosed => .connection failure.message
  | .typeNotFound _ | .columnDecode _ _ | .decode _ => .deserialization failure.message
  | .poolTimedOut => .timeout failure.message
  | .invalidArgument _ | .rowNotFound | .columnIndexOutOfBounds _ _ | .columnNotFound _
  | .encode _ | .workerCrashed => .backend failure.message

end Failure

end EntryStore.Sql
