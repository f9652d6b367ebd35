import EntryStore.Program
import EntryStore.Sql.Failure
import EntryStore.Text.Utf8

/-!
# Reading results

The database answers with cells of several storage classes; rows of entries hold text.
Numbers are written in plain notation, and binary cells are read as lenient UTF-8.
-/

namespace EntryStore.Sql

/-- A cell as the database stores it. -/
inductive Cell where
  | null
  | integer (value : Int64)
  | real (value : Double)
  /-- text, as far as its bytes are UTF-8 -/
  | text (content : Except Text.Utf8Fault String)
  | blob (bytes : List UInt8)
  deriving Repr

namespace Cell

/-- A text cell with the given bytes. -/
def ofTextBytes (bytes : List UInt8) : Cell := .text (Text.ofUtf8 bytes)

/-- A cell that holds a text or nothing. -/
def ofText? : Option String → Cell
  | some content => .text (.ok content)
  | none => .null

/-- Reads the cell at a position of a row. -/
def decode (position : Nat) : Cell → Except Failure (Option String)
  | .null => .ok none
  | .integer value => .ok (some (String.ofList (Json.integerChars value.toInt)))
  | .real value => .ok (some value.toPlainText)
  | .text (.ok content) => .ok (some content)
  | .text (.error fault) => .error (.columnDecode position fault.message)
  | .blob bytes => .ok (some (Text.ofUtf8Lossy bytes))

@[simp] theorem decode_ofText? (position : Nat) (cell : Option String) :
    (ofText? cell).decode position = .ok cell := by
  cases cell <;> rfl

end Cell

/-- Reads the cells of a row from a position on. -/
def decodeCells (position : Nat) : List Cell → Except Failure Row
  | [] => .ok []
  | cell :: rest => do return (← cell.decode position) :: (← decodeCells (position + 1) rest)

/-- Reads a row that is to have a given number of cells. -/
def decodeRow (width : Nat) (cells : List Cell) : Except Error Row :=
  if cells.length = width then (decodeCells 0 cells).mapError Failure.toError
  else
    .error (.deserialization ("Expected " ++ toString width ++
      " cells per row, backend returned " ++ toString cells.length))

/-- Reads all rows of a result. -/
def decodeRows (width : Nat) (rows : List (List Cell)) : Except Error (List Row) :=
  rows.mapM (decodeRow width)

end EntryStore.Sql
