import EntryStore.Proofs.Text.Utf8
import EntryStore.Sql.ResultSet

/-!
# Fetching rows

Rows are fetched all or not at all.  Every result set is read that has the expected width in
each row and valid UTF-8 in each text cell; then each row has a text for each of its cells, but
for the cells that hold NULL.  Any other result set gives no rows but the fault of its first
row that cannot be read: its width if that is wrong, and otherwise its first unreadable cell.
-/

namespace EntryStore.Sql

/-! ## Cells as they are stored -/

/-- A cell as the database holds it: the bytes of a text need not be UTF-8. -/
inductive StoredCell where
  | null
  | integer (value : Int64)
  | real (value : Double)
  | text (bytes : List UInt8)
  | blob (bytes : List UInt8)
  deriving Repr

namespace StoredCell

/-- The cell that the database answers with. -/
def answer : StoredCell → Cell
  | .null => .null
  | .integer value => .integer value
  | .real value => .real value
  | .text bytes => .ofTextBytes bytes
  | .blob bytes => .blob bytes

/-- Text must be valid UTF-8; cells of any other storage class can be read. -/
def Readable : StoredCell → Prop
  | .text bytes => bytes.toByteArray.IsValidUTF8
  | .null | .integer _ | .real _ | .blob _ => True

/-- What stands for a cell in a row that was read. -/
def Shows : StoredCell → Option String → Prop
  | .null, shown => shown = none
  | .integer value, shown => shown = some (toString value.toInt)
  | .real value, shown => shown = some value.toPlainText
  | .text bytes, shown => ∃ content, shown = some content ∧ content.toByteArray = bytes.toByteArray
  | .blob bytes, shown => shown = some (Text.ofUtf8Lossy bytes)

theorem Shows.eq_none_iff {cell : StoredCell} {shown : Option String} (shows : cell.Shows shown) :
    shown = none ↔ cell = .null := by
  cases cell with
  | null => exact iff_of_true shows rfl
  | text bytes =>
      obtain ⟨content, rfl, -⟩ := shows
      simp
  | integer value | real value | blob bytes =>
      obtain rfl := shows
      simp

theorem ofList_integerChars (n : Int) : String.ofList (Json.integerChars n) = toString n := by
  cases n with
  | ofNat magnitude => rfl
  | negSucc magnitude =>
      change _ = "-" ++ String.ofList (Nat.toDigits 10 (magnitude + 1))
      rw [Json.integerChars, ← String.toList_inj]
      simp

theorem decode_eq_ok_iff {cell : StoredCell} {position : Nat} {shown : Option String} :
    cell.answer.decode position = .ok shown ↔ cell.Shows shown := by
  cases cell with
  | null | real value | blob bytes => simp [answer, Cell.decode, Shows, eq_comm]
  | integer value => simp [answer, Cell.decode, Shows, eq_comm, ofList_integerChars]
  | text bytes =>
      rw [answer, Cell.ofTextBytes, Shows]
      simp only [← Text.ofUtf8_eq_ok_iff]
      cases Text.ofUtf8 bytes <;> simp [Cell.decode, eq_comm]

theorem readable_iff {cell : StoredCell} : cell.Readable ↔ ∃ shown, cell.Shows shown := by
  cases cell with
  | text bytes =>
      simp only [Readable, Shows, ← Text.exists_ofUtf8_iff, ← Text.ofUtf8_eq_ok_iff]
      constructor
      · rintro ⟨content, read⟩
        exact ⟨some content, content, rfl, read⟩
      · rintro ⟨shown, content, -, read⟩
        exact ⟨content, read⟩
  | null | integer value | real value | blob bytes => exact iff_of_true trivial ⟨_, rfl⟩

/-- Only text can fail to be read. -/
theorem decode_eq_error_iff {cell : StoredCell} {position : Nat} {failure : Failure} :
    cell.answer.decode position = .error failure ↔
      ∃ bytes fault, cell = .text bytes ∧ Text.ofUtf8 bytes = .error fault ∧
        failure = .columnDecode position fault.message := by
  cases cell with
  | text bytes =>
      rw [answer, Cell.ofTextBytes]
      cases read : Text.ofUtf8 bytes <;> simp [Cell.decode, read, eq_comm]
  | null | integer value | real value | blob bytes => simp [answer, Cell.decode]

end StoredCell

/-! ## Rows -/

/-- A row that can be read. -/
structure Intact (width : Nat) (row : List StoredCell) : Prop where
  wide : row.length = width
  readable : ∀ cell ∈ row, cell.Readable

/-- What was read from a row. -/
structure Fetched (width : Nat) (row : List StoredCell) (shown : Row) : Prop where
  wide : shown.length = width
  absent : ∀ position : Nat, shown[position]? = some none ↔ row[position]? = some StoredCell.null
  shows : List.Forall₂ StoredCell.Shows row shown

/-- Why a row cannot be read. -/
inductive RowFault (width : Nat) : List StoredCell → Error → Prop where
  /-- a wrong width, whatever the cells hold -/
  | width {row : List StoredCell} (wrong : row.length ≠ width) :
      RowFault width row (.deserialization ("Expected " ++ toString width ++
        " cells per row, backend returned " ++ toString row.length))
  /-- the first cell that is no text -/
  | cell {before after : List StoredCell} {bytes : List UInt8} {fault : Text.Utf8Fault}
      (wide : (before ++ .text bytes :: after).length = width)
      (readable : ∀ cell ∈ before, cell.Readable) (broken : Text.ofUtf8 bytes = .error fault) :
      RowFault width (before ++ .text bytes :: after)
        (.deserialization ("error occurred while decoding column " ++ toString before.length ++
          ": " ++ fault.message))

theorem decodeCells_eq_mapM (position : Nat) (cells : List Cell) :
    decodeCells position cells =
      (cells.zipIdx position).mapM fun indexed => indexed.1.decode indexed.2 := by
  induction cells generalizing position with
  | nil => rfl
  | cons cell cells ih => simp only [decodeCells, List.zipIdx_cons, List.mapM_cons, ih]

theorem decodeCells_eq_ok_iff {position : Nat} {row : List StoredCell} {shown : Row} :
    decodeCells position (row.map StoredCell.answer) = .ok shown ↔
      List.Forall₂ StoredCell.Shows row shown := by
  induction row generalizing position shown with
  | nil => simp [decodeCells, eq_comm]
  | cons cell row ih =>
      rw [List.map_cons, decodeCells, Outcome.bind_eq_ok_iff, List.forall₂_cons_left_iff]
      simp only [Outcome.bind_eq_ok_iff, StoredCell.decode_eq_ok_iff, ih]
      constructor
      · rintro ⟨content, first, contents, others, same⟩
        exact ⟨content, contents, first, others, (Except.ok.inj same).symm⟩
      · rintro ⟨content, contents, first, others, rfl⟩
        exact ⟨content, first, contents, others, rfl⟩

/-- The fault of a row is that of its first cell that cannot be read, at its position. -/
theorem decodeCells_eq_error_iff {row : List StoredCell} {failure : Failure} :
    decodeCells 0 (row.map StoredCell.answer) = .error failure ↔
      ∃ before bytes after fault, row = before ++ .text bytes :: after ∧
        (∀ cell ∈ before, cell.Readable) ∧ Text.ofUtf8 bytes = .error fault ∧
        failure = .columnDecode before.length fault.message := by
  rw [decodeCells_eq_mapM, List.zipIdx_map, List.mapM_map, Outcome.mapM_eq_error_iff]
  constructor
  · rintro ⟨before, ⟨cell, position⟩, after, split, passed, failed⟩
    obtain ⟨earlier, later, rfl, rfl, rest⟩ := List.zipIdx_eq_append_iff.mp split
    obtain ⟨cell, after, rfl, here, rfl⟩ := List.zipIdx_eq_cons_iff.mp rest.symm
    obtain ⟨rfl, rfl⟩ := Prod.mk.inj here
    obtain ⟨bytes, fault, rfl, broken, rfl⟩ := StoredCell.decode_eq_error_iff.mp failed
    refine ⟨earlier, bytes, after, fault, rfl, fun cell member => ?_, broken, by simp⟩
    obtain ⟨position, here⟩ := List.getElem?_of_mem member
    obtain ⟨content, read⟩ := passed (cell, position) (List.mk_mem_zipIdx_iff_getElem?.mpr here)
    exact StoredCell.readable_iff.mpr ⟨content, StoredCell.decode_eq_ok_iff.mp read⟩
  · rintro ⟨before, bytes, after, fault, rfl, readable, broken, rfl⟩
    refine ⟨before.zipIdx, (.text bytes, before.length), after.zipIdx (before.length + 1),
      by simp [List.zipIdx_append], fun indexed member => ?_,
      StoredCell.decode_eq_error_iff.mpr ⟨bytes, fault, rfl, broken, rfl⟩⟩
    obtain ⟨content, shows⟩ := StoredCell.readable_iff.mp
      (readable indexed.1 (List.fst_mem_of_mem_zipIdx member))
    exact ⟨content, StoredCell.decode_eq_ok_iff.mpr shows⟩

theorem decodeRow_eq_ok_iff {width : Nat} {row : List StoredCell} {shown : Row} :
    decodeRow width (row.map StoredCell.answer) = .ok shown ↔
      row.length = width ∧ List.Forall₂ StoredCell.Shows row shown := by
  rw [decodeRow, List.length_map]
  split_ifs with wide
  · rw [Outcome.mapError_eq_ok_iff, decodeCells_eq_ok_iff, and_iff_right wide]
  · simp [wide]

theorem decodeRow_eq_error_iff {width : Nat} {row : List StoredCell} {fault : Error} :
    decodeRow width (row.map StoredCell.answer) = .error fault ↔ RowFault width row fault := by
  rw [decodeRow, List.length_map]
  split_ifs with wide
  · rw [Outcome.mapError_eq_error_iff]
    constructor
    · rintro ⟨failure, failed, rfl⟩
      obtain ⟨before, bytes, after, broken, rfl, readable, unread, rfl⟩ :=
        decodeCells_eq_error_iff.mp failed
      exact .cell wide readable unread
    · intro faulty
      cases faulty with
      | width wrong => exact absurd wide wrong
      | cell wide readable broken =>
          exact ⟨_, decodeCells_eq_error_iff.mpr ⟨_, _, _, _, rfl, readable, broken, rfl⟩, rfl⟩
  · rw [Except.error.injEq, eq_comm]
    constructor
    · rintro rfl
      exact .width wide
    · intro faulty
      cases faulty with
      | width wrong => rfl
      | cell wide' => exact absurd wide' wide

theorem readable_of_shows {row : List StoredCell} {shown : Row}
    (shows : List.Forall₂ StoredCell.Shows row shown) : ∀ cell ∈ row, cell.Readable := by
  induction shows with
  | nil => exact List.forall_mem_nil _
  | cons first _ ih =>
      exact List.forall_mem_cons.mpr ⟨StoredCell.readable_iff.mpr ⟨_, first⟩, ih⟩

theorem absent_of_shows {row : List StoredCell} {shown : Row}
    (shows : List.Forall₂ StoredCell.Shows row shown) (position : Nat) :
    shown[position]? = some none ↔ row[position]? = some StoredCell.null := by
  induction shows generalizing position with
  | nil => simp
  | cons first _ ih =>
      cases position with
      | zero => simpa using first.eq_none_iff
      | succ position => exact ih position

theorem RowFault.not_intact {width : Nat} {row : List StoredCell} {fault : Error}
    (faulty : RowFault width row fault) : ¬Intact width row := by
  intro intact
  cases faulty with
  | width wrong => exact wrong intact.wide
  | cell _ _ broken =>
      have readable := intact.readable (.text _) (List.mem_append_right _ List.mem_cons_self)
      obtain ⟨content, read⟩ := Text.exists_ofUtf8_iff.mpr readable
      cases broken.symm.trans read

theorem intact_iff {width : Nat} {row : List StoredCell} :
    Intact width row ↔ ∃ shown, decodeRow width (row.map StoredCell.answer) = .ok shown := by
  constructor
  · intro intact
    cases done : decodeRow width (row.map StoredCell.answer) with
    | ok shown => exact ⟨shown, rfl⟩
    | error fault => exact absurd intact (decodeRow_eq_error_iff.mp done).not_intact
  · rintro ⟨shown, done⟩
    obtain ⟨wide, shows⟩ := decodeRow_eq_ok_iff.mp done
    exact ⟨wide, readable_of_shows shows⟩

theorem Fetched.of_decodeRow {width : Nat} {row : List StoredCell} {shown : Row}
    (done : decodeRow width (row.map StoredCell.answer) = .ok shown) : Fetched width row shown := by
  obtain ⟨wide, shows⟩ := decodeRow_eq_ok_iff.mp done
  exact ⟨shows.length_eq.symm.trans wide, absent_of_shows shows, shows⟩

/-! ## Result sets -/

/-- The rows that the database answers with. -/
def answers (rows : List (List StoredCell)) : List (List Cell) :=
  rows.map (·.map StoredCell.answer)

/-- Fetching gives all rows or none: those of every result set in which each row can be read,
in their order, and otherwise the fault of the first row that cannot. -/
theorem fetched_all_or_nothing (width : Nat) (rows : List (List StoredCell)) :
    ((∃ fetched, decodeRows width (answers rows) = .ok fetched) ↔
      ∀ row ∈ rows, Intact width row) ∧
    (∀ fetched, decodeRows width (answers rows) = .ok fetched →
      List.Forall₂ (Fetched width) rows fetched) ∧
    ∀ fault, decodeRows width (answers rows) = .error fault ↔
      ∃ before row after, rows = before ++ row :: after ∧
        (∀ earlier ∈ before, Intact width earlier) ∧ RowFault width row fault := by
  rw [decodeRows, answers, List.mapM_map]
  refine ⟨?_, fun fetched done => ?_, fun fault => ?_⟩
  · simp only [Outcome.exists_mapM_eq_ok_iff, intact_iff, Function.comp_apply]
  · exact (Outcome.mapM_eq_ok_iff.mp done).imp fun row shown => Fetched.of_decodeRow
  · simp only [Outcome.mapM_eq_error_iff, intact_iff, Function.comp_apply, decodeRow_eq_error_iff]

example : decodeRows 2 (answers [[.null, .text [0x68, 0x69]], [.text [0xFF], .null], [.null]]) =
    .error (.deserialization
      "error occurred while decoding column 0: invalid utf-8 sequence of 1 bytes from index 0") := by
  rfl

end EntryStore.Sql
