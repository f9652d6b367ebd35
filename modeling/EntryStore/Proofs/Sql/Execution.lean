import EntryStore.Sql.Connection
import EntryStore.Proofs.Outcome
import EntryStore.Proofs.Sql.ReadBack

/-!
# Executing statements

What the database answers to a statement whose names resolve, and what it keeps.  The rows
that a clause picks are given by a predicate, about which `Table.Picks` says all that
statements need to know.
-/

namespace EntryStore.Sql

namespace Table

variable {table : Table}

/-- A table has a column. -/
def Has (table : Table) (column : String) : Prop := (table.position? column).isSome = true

instance (table : Table) (column : String) : Decidable (table.Has column) :=
  inferInstanceAs (Decidable ((table.position? column).isSome = true))

/-- The position of a column. -/
def positionOf (table : Table) (column : String) : Nat := (table.position? column).getD 0

/-- The cell of a column in a row. -/
def cell (table : Table) (column : String) (row : Row) : Option String :=
  row[table.positionOf column]?.join

/-- The cells of columns in a row. -/
def project (table : Table) (columns : List String) (row : Row) : Row :=
  columns.map fun column => table.cell column row

/-- A clause picks the rows of a table for which a predicate holds. -/
def Picks (meaning : PatternMeaning) (table : Table) (clause : List Term) (params : List String)
    (picks : Row → Bool) : Prop :=
  ∃ condition, table.condition clause params = .ok condition ∧
    table.marked meaning condition = .ok (table.rows.map fun row => (row, picks row))

theorem position?_eq_some {column : String} (has : table.Has column) :
    table.position? column = some (table.positionOf column) := by
  obtain ⟨position, found⟩ := Option.isSome_iff_exists.mp has
  rw [positionOf, found]
  rfl

theorem position_eq_ok {column : String} (has : table.Has column) :
    table.position column = .ok (table.positionOf column) := by
  rw [position, position?_eq_some has]

theorem positions_eq_ok {columns : List String} (has : ∀ column ∈ columns, table.Has column) :
    columns.mapM table.position = .ok (columns.map table.positionOf) :=
  Outcome.mapM_eq_ok fun column member => position_eq_ok (has column member)

/-- A condition that is understood on every row picks rows. -/
theorem picks_of_admits {meaning : PatternMeaning} {clause : List Term} {params : List String}
    {condition : Option Condition} {picks : Row → Bool}
    (resolved : table.condition clause params = .ok condition)
    (admits : ∀ row ∈ table.rows, Table.admits meaning condition row = .ok (picks row)) :
    table.Picks meaning clause params picks := by
  refine ⟨condition, resolved, ?_⟩
  apply Outcome.mapM_eq_ok
  intro row member
  rw [admits row member]
  rfl

end Table

namespace Database

variable {meaning : PatternMeaning} {database : Database} {table : Table} {name : String}
variable {columns : List String} {clause : List Term} {params : List String}
variable {picks : Row → Bool}

theorem find_eq_ok (found : database.find? name = some table) :
    database.find name = .ok table := by
  rw [find, found]

theorem checkPlain_eq_ok (plain : ∀ column ∈ columns, isQualified column = false) :
    checkPlain columns = .ok () := by
  have none : columns.any isQualified = false := by
    rw [List.any_eq_false]
    intro column member
    rw [plain column member]
    exact Bool.false_ne_true
  rw [checkPlain, none]
  rfl

/-- A selection answers with the picked rows in their order and keeps the database. -/
theorem execute_select (found : database.find? name = some table)
    (has : ∀ column ∈ columns, table.Has column)
    (picked : table.Picks meaning clause params picks) :
    database.execute meaning (.select columns name clause) params =
      .ok (.rows ((table.rows.filter picks).map (table.project columns)), database) := by
  obtain ⟨condition, resolved, marked⟩ := picked
  have selected : ∀ rows : List Row,
      (rows.map fun row => (row, picks row)).filterMap (fun (row, passes) =>
        if passes then some ((columns.map table.positionOf).map fun position =>
          row[position]?.join) else none) =
      (rows.filter picks).map (table.project columns) := by
    intro rows
    induction rows with
    | nil => rfl
    | cons row rows ih =>
        rw [List.map_cons, List.filterMap_cons, ih]
        cases passes : picks row with
        | false => simp [passes]
        | true => simp [passes, Table.project, Table.cell]
  simp only [execute, find_eq_ok found, Table.positions_eq_ok has, resolved, marked, bind,
    Except.bind, selected]
  rfl

/-- A deletion removes the picked rows and counts them. -/
theorem execute_delete (found : database.find? name = some table)
    (picked : table.Picks meaning clause params picks) :
    database.execute meaning (.delete name clause) params =
      .ok (.affected (table.rows.countP picks),
        database.replace { table with rows := table.rows.filter fun row => !picks row }) := by
  obtain ⟨condition, resolved, marked⟩ := picked
  have kept : ∀ rows : List Row,
      (rows.map fun row => (row, picks row)).filterMap (fun (row, passes) =>
        if passes then none else some row) = rows.filter fun row => !picks row := by
    intro rows
    induction rows with
    | nil => rfl
    | cons row rows ih =>
        rw [List.map_cons, List.filterMap_cons, ih]
        cases passes : picks row with
        | false => simp [passes]
        | true => simp [passes]
  simp only [execute, find_eq_ok found, resolved, marked, bind, Except.bind, kept,
    List.countP_map]
  rfl

/-- An update overwrites cells of the picked rows and counts these. -/
theorem execute_update {values others : List String}
    (plain : ∀ column ∈ columns, isQualified column = false)
    (found : database.find? name = some table) (has : ∀ column ∈ columns, table.Has column)
    (bound : values.length = columns.length)
    (picked : table.Picks meaning clause others picks) :
    database.execute meaning (.update name columns clause) (values ++ others) =
      .ok (.affected (table.rows.countP picks),
        database.replace { table with
          rows := table.rows.map fun row =>
            if picks row then Table.overwrite row ((columns.map table.positionOf).zip values)
            else row }) := by
  obtain ⟨condition, resolved, marked⟩ := picked
  have left : (values ++ others).drop columns.length = others := by
    rw [← bound, List.drop_left]
  have cells : (columns.map table.positionOf).zip (values ++ others) =
      (columns.map table.positionOf).zip values := by
    rw [← List.append_nil (columns.map table.positionOf),
      List.zip_append (by rw [List.length_map, bound]), List.append_nil]
    simp
  simp only [execute, checkPlain_eq_ok plain, find_eq_ok found, Table.positions_eq_ok has, left,
    resolved, marked, bind, Except.bind, cells, List.countP_map, List.map_map]
  rfl

/-- An insertion appends a row that leaves out no required cell. -/
theorem execute_insert (plain : ∀ column ∈ columns, isQualified column = false)
    (found : database.find? name = some table) (has : ∀ column ∈ columns, table.Has column)
    (complete : table.missing? (table.newRow ((columns.map table.positionOf).zip params)) = none) :
    database.execute meaning (.insert name columns) params =
      .ok (.affected 1, database.replace { table with
        rows := table.rows ++ [table.newRow ((columns.map table.positionOf).zip params)] }) := by
  simp only [execute, checkPlain_eq_ok plain, find_eq_ok found, bind, Except.bind]
  rw [@Outcome.mapM_eq_ok _ _ _ _ table.positionOf columns]
  · simp only [complete]
    rfl
  · intro column member
    rw [Table.position?_eq_some (has column member)]

end Database

/-! ## What a success tells

A statement that is executed has found its columns. -/

namespace Table

variable {table : Table}

theorem has_of_position {column : String} {position : Nat}
    (found : table.position column = .ok position) : table.Has column := by
  unfold Table.position at found
  split at found
  · next seen => exact Option.isSome_iff_exists.mpr ⟨_, seen⟩
  · cases found

theorem has_of_positions {columns : List String} {positions : List Nat}
    (found : columns.mapM table.position = .ok positions) :
    ∀ column ∈ columns, table.Has column := by
  intro column member
  obtain ⟨position, seen⟩ := Outcome.exists_of_mem found member
  exact has_of_position seen

theorem has_of_condition {clause : List Term} {params : List String}
    {condition : Option Condition} (bound : clause.length ≤ params.length)
    (resolved : table.condition clause params = .ok condition) :
    ∀ term ∈ clause, table.Has term.column := by
  intro term member
  obtain ⟨index, inside, rfl⟩ := List.getElem_of_mem member
  have paired : (clause[index], params[index]) ∈ clause.zip params :=
    List.mem_of_getElem? (List.getElem?_zip_eq_some.mpr
      ⟨List.getElem?_eq_getElem inside, List.getElem?_eq_getElem (by omega)⟩)
  obtain ⟨leaves, done, _⟩ := Outcome.bind_eq_ok_iff.mp resolved
  obtain ⟨leaf, found⟩ := Outcome.exists_of_mem done paired
  obtain ⟨position, seen, _⟩ := Outcome.bind_eq_ok_iff.mp found
  exact has_of_position seen

/-- A column that is there is one of the columns. -/
theorem positionOf_lt_of_has {column : String} (has : table.Has column) :
    table.positionOf column < table.columns.length := by
  have found := position?_eq_some has
  unfold position? at found
  split at found
  · exact (List.findIdx?_eq_some_iff_getElem.mp found).1
  · split at found
    · exact (List.findIdx?_eq_some_iff_getElem.mp found).1
    · cases found

end Table

namespace Database

variable {meaning : PatternMeaning} {database after : Database} {table : Table} {name : String}
variable {columns : List String} {clause : List Term} {params : List String} {outcome : Outcome}

theorem plain_of_checkPlain (checked : checkPlain columns = .ok ()) :
    ∀ column ∈ columns, isQualified column = false := by
  intro column member
  unfold checkPlain at checked
  split at checked
  · cases checked
  · next plain =>
      exact eq_false_of_ne_true (List.any_eq_false.mp (eq_false_of_ne_true plain) column member)

/-- A deletion has found the columns of its clause. -/
theorem has_of_delete (found : database.find? name = some table)
    (bound : clause.length ≤ params.length)
    (executed : database.execute meaning (.delete name clause) params = .ok (outcome, after)) :
    ∀ term ∈ clause, table.Has term.column := by
  simp only [execute, find_eq_ok found, Outcome.ok_bind] at executed
  obtain ⟨condition, resolved, _⟩ := Outcome.bind_eq_ok_iff.mp executed
  exact Table.has_of_condition bound resolved

/-- An update has found the columns that it writes and those of its clause. -/
theorem has_of_update (found : database.find? name = some table)
    (bound : columns.length + clause.length ≤ params.length)
    (executed : database.execute meaning (.update name columns clause) params =
      .ok (outcome, after)) :
    (∀ column ∈ columns, isQualified column = false) ∧ (∀ column ∈ columns, table.Has column) ∧
      ∀ term ∈ clause, table.Has term.column := by
  simp only [execute, find_eq_ok found, Outcome.ok_bind] at executed
  obtain ⟨_, checked, executed⟩ := Outcome.bind_eq_ok_iff.mp executed
  obtain ⟨positions, resolved, executed⟩ := Outcome.bind_eq_ok_iff.mp executed
  obtain ⟨condition, bounded, _⟩ := Outcome.bind_eq_ok_iff.mp executed
  refine ⟨plain_of_checkPlain checked, Table.has_of_positions resolved,
    Table.has_of_condition ?_ bounded⟩
  rw [List.length_drop]
  omega

/-- An insertion has appended the row of its texts. -/
theorem eq_of_insert (found : database.find? name = some table)
    (has : ∀ column ∈ columns, table.Has column)
    (executed : database.execute meaning (.insert name columns) params = .ok (outcome, after)) :
    after = database.replace { table with
      rows := table.rows ++ [table.newRow ((columns.map table.positionOf).zip params)] } := by
  simp only [execute, find_eq_ok found, Outcome.ok_bind] at executed
  obtain ⟨_, _, executed⟩ := Outcome.bind_eq_ok_iff.mp executed
  rw [@Outcome.mapM_eq_ok _ _ _ _ table.positionOf columns] at executed
  · simp only [Outcome.ok_bind] at executed
    split at executed
    · cases executed
    · cases executed
      rfl
  · intro column member
    rw [Table.position?_eq_some (has column member)]

end Database

/-! ## Sending statements -/

theorem decodeCells_ofText? (position : Nat) (row : Row) :
    decodeCells position (row.map Cell.ofText?) = .ok row := by
  induction row generalizing position with
  | nil => rfl
  | cons cell row ih =>
      simp only [List.map_cons, decodeCells, Cell.decode_ofText?, ih]
      rfl

/-- Rows of texts of the expected width are read as they are. -/
theorem decodeRows_ofText? {width : Nat} {rows : List Row}
    (widths : ∀ row ∈ rows, row.length = width) :
    decodeRows width (rows.map (·.map Cell.ofText?)) = .ok rows := by
  have decoded : ∀ row ∈ rows, decodeRow width (row.map Cell.ofText?) = .ok row := by
    intro row member
    rw [decodeRow, List.length_map, if_pos (widths row member), decodeCells_ofText?]
    rfl
  rw [decodeRows, List.mapM_map]
  exact (Outcome.mapM_eq_ok decoded).trans (congrArg _ (List.map_id _))

namespace Connection

variable {meaning : PatternMeaning} {database after : Database} {statement : Statement}
variable {params : List String}

/-- What an open connection answers to a text is what the database answers to the statement that is
read off it. -/
theorem send_eq {connection : Connection} (isOpen : connection.isOpen = true) {sent : Prepared}
    (reads : Statement.read? sent.sql = some statement) :
    connection.send (Database.execute meaning) sent =
      match connection.database.execute meaning statement sent.params with
      | .ok (outcome, after) => (.ok outcome, { connection with database := after })
      | .error refusal => (.error refusal.toFailure.toError, connection) := by
  have opened : connection.send (Database.execute meaning) sent =
      match connection.database.run (Database.execute meaning) sent with
      | .ok (outcome, after) => (.ok outcome, { connection with database := after })
      | .error refusal => (.error refusal.toFailure.toError, connection) := if_pos isOpen
  have ran : connection.database.run (Database.execute meaning) sent =
      connection.database.execute meaning statement sent.params := by
    simp only [Database.run, reads]
  rw [opened, ran]

theorem send_of {outcome : Outcome} (words : statement.AllNames IsWord)
    (regular : statement.Regular)
    (executed : database.execute meaning statement params = .ok (outcome, after)) :
    (Connection.of database).send (Database.execute meaning) (.of statement params) =
      (.ok outcome, Connection.of after) := by
  have sentence : Statement.read? (Prepared.of statement params).sql = some statement :=
    Statement.read?_print words regular
  have sent : (Connection.of database).database.execute meaning statement
      (Prepared.of statement params).params = .ok (outcome, after) := executed
  rw [send_eq rfl sentence, sent]
  rfl

/-- Where a number is answered, the connection is open and the database has executed the
statement. -/
theorem exists_of_execute {connection left : Connection} {sent : Prepared} {count : Nat}
    (reads : Statement.read? sent.sql = some statement)
    (executed : (executor meaning).execute sent connection = (.ok count, left)) :
    connection.isOpen = true ∧ ∃ outcome after,
      connection.database.execute meaning statement sent.params = .ok (outcome, after) ∧
        countOf outcome = count ∧ left = { connection with database := after } := by
  simp only [executor, executorBy] at executed
  by_cases isOpen : connection.isOpen = true
  · rw [send_eq isOpen reads] at executed
    cases answered : connection.database.execute meaning statement sent.params with
    | error refusal =>
        rw [answered] at executed
        cases executed
    | ok result =>
        rw [answered] at executed
        cases executed
        exact ⟨isOpen, result.1, result.2, rfl, rfl, rfl⟩
  · rw [send, if_neg isOpen] at executed
    cases executed

/-- The rows of a statement reach the program as the database has them. -/
theorem fetch_of {rows : List Row} (words : statement.AllNames IsWord)
    (regular : statement.Regular)
    (executed : database.execute meaning statement params = .ok (.rows rows, after))
    (widths : ∀ row ∈ rows, row.length = statement.width) :
    (executor meaning).fetch (.of statement params) (Connection.of database) =
      (.ok rows, Connection.of after) := by
  have decoded : rowsOf statement.width (.rows rows) = .ok rows := decodeRows_ofText? widths
  simp only [executor, executorBy, send_of words regular executed]
  exact congrArg (·, Connection.of after) decoded

theorem execute_of {count : Nat} (words : statement.AllNames IsWord)
    (regular : statement.Regular)
    (executed : database.execute meaning statement params = .ok (.affected count, after)) :
    (executor meaning).execute (.of statement params) (Connection.of database) =
      (.ok count, Connection.of after) := by
  simp only [executor, executorBy, send_of words regular executed]
  rfl

end Connection

end EntryStore.Sql
