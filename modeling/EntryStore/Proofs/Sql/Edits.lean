import EntryStore.Proofs.Sql.Columns

/-!
# Counting changed rows

An executor is faithful to the rows of a table if it counts exactly the rows that a statement
changes, and if a statement that fails changes none.  The executor over a database of one table
is.
-/

namespace EntryStore

/-- Some number of edits of a list: items that are changed, removed or added.  An item that is
changed may be the same as before. -/
inductive Edits {α : Type} : Nat → List α → List α → Prop where
  | nil : Edits 0 [] []
  | keep {count : Nat} {before after : List α} (item : α) :
      Edits count before after → Edits count (item :: before) (item :: after)
  | change {count : Nat} {before after : List α} (old new : α) :
      Edits count before after → Edits (count + 1) (old :: before) (new :: after)
  | remove {count : Nat} {before after : List α} (item : α) :
      Edits count before after → Edits (count + 1) (item :: before) after
  | add {count : Nat} {before after : List α} (item : α) :
      Edits count before after → Edits (count + 1) before (item :: after)

namespace Edits

variable {α : Type}

theorem refl (list : List α) : Edits 0 list list := by
  induction list with
  | nil => exact .nil
  | cons item list ih => exact .keep item ih

/-- Without edits, nothing changes. -/
theorem eq_of_zero {before after : List α} (edits : Edits 0 before after) : after = before := by
  generalize counted : 0 = count at edits
  induction edits with
  | nil => rfl
  | keep item _ ih => rw [ih counted]
  | change _ _ _ _ => cases counted
  | remove _ _ _ => cases counted
  | add _ _ _ => cases counted

theorem append_singleton (list : List α) (item : α) : Edits 1 list (list ++ [item]) := by
  induction list with
  | nil => exact .add item .nil
  | cons first list ih => exact .keep first ih

variable (marked : List (α × Bool))

theorem changed (change : α → α) :
    Edits (marked.countP (·.2)) (marked.map (·.1))
      (marked.map fun (item, marked) => if marked then change item else item) := by
  induction marked with
  | nil => exact .nil
  | cons first marked ih =>
      obtain ⟨item, passes⟩ := first
      cases passes with
      | false => exact .keep item ih
      | true =>
          rw [List.countP_cons_of_pos rfl]
          exact .change item _ ih

theorem removed :
    Edits (marked.countP (·.2)) (marked.map (·.1))
      (marked.filterMap fun (item, marked) => if marked then none else some item) := by
  induction marked with
  | nil => exact .nil
  | cons first marked ih =>
      obtain ⟨item, passes⟩ := first
      cases passes with
      | false => exact .keep item ih
      | true =>
          rw [List.countP_cons_of_pos rfl]
          exact .remove item ih

end Edits

/-- An executor of which a view shows the rows of a table.  Where a statement fails the rows stay
as they are, and otherwise the count is that of the changed rows. -/
structure Executor.Faithful {σ : Type} (executor : Executor σ) (contents : σ → List Row) :
    Prop where
  failing : ∀ statement state error, (executor.execute statement state).1 = .error error →
    contents (executor.execute statement state).2 = contents state
  counted : ∀ statement state count, (executor.execute statement state).1 = .ok count →
    Edits count (contents state) (contents (executor.execute statement state).2)

/-! ## A database of one table -/

namespace Sql

/-- The executor over a database of which one table alone is looked at and kept. -/
def Table.executor (meaning : PatternMeaning) : Executor Table where
  fetch := fun statement table =>
    let (reply, after) := (Connection.executor meaning).fetch statement (.of ⟨[table]⟩)
    (reply, after.database.tables.headD table)
  execute := fun statement table =>
    let (reply, after) := (Connection.executor meaning).execute statement (.of ⟨[table]⟩)
    (reply, after.database.tables.headD table)

/-- The rows of a table are marked in their order. -/
theorem Table.rows_of_marked {meaning : PatternMeaning} {table : Table}
    {condition : Option Condition} {marked : List (Row × Bool)}
    (done : table.marked meaning condition = .ok marked) : marked.map (·.1) = table.rows := by
  unfold Table.marked at done
  rw [Outcome.mapM_eq_ok_iff] at done
  generalize table.rows = rows at done ⊢
  induction done with
  | nil => rfl
  | cons first _ ih =>
      obtain ⟨passes, _, same⟩ := Outcome.bind_eq_ok_iff.mp first
      cases same
      exact congrArg _ ih

namespace Database

variable {meaning : PatternMeaning} {table found : Table} {database after : Database}

theorem eq_of_find {name : String} (opened : (Database.mk [table]).find name = .ok found) :
    found = table := by
  unfold find at opened
  split at opened
  · next found' seen =>
      cases opened
      unfold find? at seen
      simp only at seen
      split at seen
      · exact List.mem_singleton.mp (List.mem_of_find?_eq_some seen)
      · cases seen
  · cases opened

theorem tables_replace (rows : List Row) :
    ((Database.mk [table]).replace { table with rows := rows }).tables =
      [{ table with rows := rows }] := by
  rw [replace, List.map_singleton, if_pos (sameName_self _)]

/-- The tables that are there come first after a creation. -/
theorem tables_create {name : String} {columns : List ColumnDefinition}
    (created : database.create name columns = .ok after) :
    ∃ others, after.tables = database.tables ++ others := by
  have here : ∀ table, create.createHere database columns table = .ok after →
      ∃ others, after.tables = database.tables ++ others := by
    intro table created
    unfold create.createHere at created
    split at created
    · obtain ⟨_, _, same⟩ := Outcome.bind_eq_ok_iff.mp created
      cases same
      exact ⟨[], (List.append_nil _).symm⟩
    · obtain ⟨_, _, same⟩ := Outcome.bind_eq_ok_iff.mp created
      cases same
      exact ⟨_, rfl⟩
  unfold create at created
  simp only at created
  split at created
  · split at created
    · exact here _ created
    · cases created
  · exact here _ created

/-- A statement that succeeds on a database of one table counts the rows that it changes. -/
theorem edits_execute {statement : Statement} {params : List String} {outcome : Outcome}
    (executed : (Database.mk [table]).execute meaning statement params = .ok (outcome, after)) :
    Edits (Connection.countOf outcome) table.rows (after.tables.headD table).rows := by
  cases statement with
  | create name columns =>
      obtain ⟨created, done, same⟩ := Outcome.bind_eq_ok_iff.mp executed
      cases same
      obtain ⟨others, tables⟩ := tables_create done
      rw [tables]
      exact .refl _
  | select columns name clause =>
      obtain ⟨found, _, executed⟩ := Outcome.bind_eq_ok_iff.mp executed
      obtain ⟨positions, _, executed⟩ := Outcome.bind_eq_ok_iff.mp executed
      obtain ⟨condition, _, executed⟩ := Outcome.bind_eq_ok_iff.mp executed
      obtain ⟨marked, _, same⟩ := Outcome.bind_eq_ok_iff.mp executed
      cases same
      exact .refl _
  | update name columns clause =>
      obtain ⟨_, _, executed⟩ := Outcome.bind_eq_ok_iff.mp executed
      obtain ⟨found, opened, executed⟩ := Outcome.bind_eq_ok_iff.mp executed
      obtain ⟨positions, _, executed⟩ := Outcome.bind_eq_ok_iff.mp executed
      obtain ⟨condition, _, executed⟩ := Outcome.bind_eq_ok_iff.mp executed
      obtain ⟨marked, done, same⟩ := Outcome.bind_eq_ok_iff.mp executed
      cases same
      obtain rfl := eq_of_find opened
      rw [tables_replace, ← Table.rows_of_marked done]
      exact .changed marked fun row => Table.overwrite row (positions.zip params)
  | delete name clause =>
      obtain ⟨found, opened, executed⟩ := Outcome.bind_eq_ok_iff.mp executed
      obtain ⟨condition, _, executed⟩ := Outcome.bind_eq_ok_iff.mp executed
      obtain ⟨marked, done, same⟩ := Outcome.bind_eq_ok_iff.mp executed
      cases same
      obtain rfl := eq_of_find opened
      rw [tables_replace, ← Table.rows_of_marked done]
      exact .removed marked
  | insert name columns =>
      obtain ⟨_, _, executed⟩ := Outcome.bind_eq_ok_iff.mp executed
      obtain ⟨found, opened, executed⟩ := Outcome.bind_eq_ok_iff.mp executed
      obtain ⟨positions, _, executed⟩ := Outcome.bind_eq_ok_iff.mp executed
      simp only at executed
      split at executed
      · cases executed
      · cases executed
        obtain rfl := eq_of_find opened
        rw [tables_replace]
        exact .append_singleton _ _

end Database

theorem Table.execute_eq (meaning : PatternMeaning) (statement : Prepared) (table : Table) :
    (Table.executor meaning).execute statement table =
      match (Database.mk [table]).run (Database.execute meaning) statement with
      | .ok (outcome, after) => (.ok (Connection.countOf outcome), after.tables.headD table)
      | .error refusal => (.error refusal.toFailure.toError, table) := by
  simp only [Table.executor, Connection.executor, Connection.executorBy, Connection.send,
    Connection.of, if_true]
  cases (Database.mk [table]).run (Database.execute meaning) statement with
  | ok result => rfl
  | error refusal => rfl

/-- The executor over a database of one table is faithful to the rows of the table. -/
theorem Table.faithful_executor (meaning : PatternMeaning) :
    (Table.executor meaning).Faithful Table.rows where
  failing := by
    intro statement table error failed
    rw [execute_eq] at failed ⊢
    cases ran : (Database.mk [table]).run (Database.execute meaning) statement with
    | ok result =>
        rw [ran] at failed
        cases failed
    | error refusal => rfl
  counted := by
    intro statement table count succeeded
    rw [execute_eq] at succeeded ⊢
    cases ran : (Database.mk [table]).run (Database.execute meaning) statement with
    | error refusal =>
        rw [ran] at succeeded
        cases succeeded
    | ok result =>
        rw [ran] at succeeded
        cases succeeded
        unfold Database.run at ran
        split at ran
        · exact Database.edits_execute ran
        · cases ran

end Sql

end EntryStore
