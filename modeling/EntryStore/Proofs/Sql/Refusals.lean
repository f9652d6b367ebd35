import EntryStore.Proofs.Exchange
import EntryStore.Proofs.Sql.Edits
import EntryStore.Proofs.Sql.Rows

/-!
# What refuses a statement

A statement keeps within the definitions of a table if every column that it speaks of is defined,
and if it gives each required column a text where it inserts a row.  It is then refused only where
a row is compared with a malformed pattern, and it leaves the columns of the table as they are.
-/

namespace EntryStore.Sql

namespace Statement

/-- The name of the table that a statement is about. -/
def table : Statement → String
  | .select _ table _ => table
  | .update table _ _ => table
  | .delete table _ => table
  | .insert table _ => table
  | .create table _ => table

/-- The columns that a statement speaks of. -/
def mentions : Statement → List String
  | .select columns _ clause => columns ++ clause.map (·.column)
  | .update _ columns clause => columns ++ clause.map (·.column)
  | .delete _ clause => clause.map (·.column)
  | .insert _ columns => columns
  | .create _ columns => columns.map (·.name)

/-- A statement keeps within definitions: it speaks of defined columns, and the row that it
inserts has a text for each required one. -/
structure Within (definitions : List ColumnDefinition) (params : List String)
    (statement : Statement) : Prop where
  declared : ∀ column ∈ statement.mentions, ∃ definition ∈ definitions, definition.name = column
  filled : ∀ name columns, statement = .insert name columns →
    ∀ definition ∈ definitions, definition.required = true →
      ∃ (position : Nat) (text : String),
        columns[position]? = some definition.name ∧ params[position]? = some text

end Statement

/-! ## Refusals as errors -/

namespace Refusal

theorem toError_toFailure (refusal : Refusal) :
    refusal.toFailure.toError = .backend refusal.toFailure.message := by
  cases refusal <;> rfl

theorem toError_ne_deserialization (refusal : Refusal) (reason : String) :
    refusal.toFailure.toError ≠ .deserialization reason := by
  rw [toError_toFailure]
  exact Error.noConfusion

theorem code_eq (refusal : Refusal) :
    refusal = .malformedPattern ∨ refusal.code ∈ [1, 8, 1299] := by
  cases refusal <;> simp [code]

/-- No other refusal is reported like that of a malformed pattern. -/
theorem eq_malformedPattern_of_toError {refusal : Refusal}
    (same : refusal.toFailure.toError = Refusal.malformedPattern.toFailure.toError) :
    refusal = .malformedPattern := by
  rw [toError_toFailure, toError_toFailure, Error.backend.injEq] at same
  unfold toFailure Failure.message at same
  rw [← String.toList_inj] at same
  simp only [String.toList_append, List.append_assoc, List.append_cancel_left_eq] at same
  rcases refusal.code_eq with malformed | other
  · exact malformed
  · -- The digits of another code differ from those of the pattern's.
    simp only [List.mem_cons, List.not_mem_nil, or_false] at other
    rcases other with code | code | code
    · rw [code] at same
      cases same
    · rw [code] at same
      cases same
    · rw [code] at same
      cases same

end Refusal

/-! ## Executing statements within definitions -/

namespace Table

variable {meaning : PatternMeaning} {table : Table}

theorem exists_condition {clause : List Term} (has : ∀ term ∈ clause, table.Has term.column)
    (params : List String) : ∃ condition, table.condition clause params = .ok condition := by
  let leaf : Term × String → Condition.Leaf :=
    fun bound => (bound.1.link, table.positionOf bound.1.column, bound.2)
  unfold condition
  rw [@Outcome.mapM_eq_ok _ _ _ _ leaf (clause.zip params)]
  · exact ⟨_, rfl⟩
  · intro bound member
    obtain ⟨term, param⟩ := bound
    have named := has term (List.of_mem_zip member).1
    change (table.position term.column >>= _) = _
    rw [position_eq_ok named]
    rfl

theorem malformedPattern_of_marked {condition : Option Condition} {refusal : Refusal}
    (refused : table.marked meaning condition = .error refusal) :
    refusal = .malformedPattern := by
  obtain ⟨row, _, refused⟩ := Outcome.exists_of_mapM_eq_error refused
  rw [Outcome.bind_pure_eq_error_iff] at refused
  unfold admits at refused
  split at refused
  · cases refused
  · split at refused
    · cases refused
    · exact (Except.error.inj refused).symm

/-- A row gets the text that a position of an insertion gives to a column. -/
theorem isSome_lookup {columns params : List String} {column text : String} {position : Nat}
    (named : columns[position]? = some column) (given : params[position]? = some text) :
    (((columns.map table.positionOf).zip params).lookup (table.positionOf column)).isSome =
      true := by
  have paired : (table.positionOf column, text) ∈ (columns.map table.positionOf).zip params := by
    apply List.mem_of_getElem? (i := position)
    rw [List.getElem?_zip_eq_some, List.getElem?_map, named]
    exact ⟨rfl, given⟩
  rw [List.lookup_isSome_iff]
  exact ⟨_, paired, beq_self_eq_true _⟩

end Table

namespace Database

variable {meaning : PatternMeaning} {database : Database} {table : Table} {name : String}

theorem find?_of_isHere (here : IsHere name) :
    database.find? name =
      database.tables.find? fun candidate => sameName candidate.name (splitName name).2 :=
  if_pos here

theorem isHere_of_find? (found : database.find? name = some table) :
    IsHere name ∧
      (database.tables.any fun other => sameName other.name (splitName name).2) = true := by
  unfold find? at found
  simp only at found
  split at found
  · next here =>
      exact ⟨here, List.any_eq_true.mpr
        ⟨table, List.mem_of_find?_eq_some found, (List.find?_some found :)⟩⟩
  · cases found

section Within

variable {statement : Statement} {params : List String}
variable (tidy : table.Tidy) (found : database.find? statement.table = some table)
  (within : statement.Within table.columns params)
include tidy found within

/-- A statement within the definitions of its table can be refused for one reason only. -/
theorem malformedPattern_of_execute {refusal : Refusal}
    (refused : database.execute meaning statement params = .error refusal) :
    refusal = .malformedPattern := by
  have names : ∀ column ∈ statement.mentions, table.Names column := by
    intro column member
    obtain ⟨definition, definitionMember, name⟩ := within.declared column member
    exact ⟨definition, definitionMember, congrArg foldName name⟩
  have has : ∀ column ∈ statement.mentions, table.Has column :=
    fun column member => Table.has_of_names tidy (names column member)
  have plain : ∀ column ∈ statement.mentions, isQualified column = false :=
    fun column member => Table.plain_of_names tidy (names column member)
  cases statement with
  | create name columns =>
      obtain ⟨here, known⟩ := isHere_of_find? found
      have created : database.create name columns = .ok database :=
        create_of_any here known (List.forall_mem_map.mp plain)
      rw [execute, created] at refused
      cases refused
  | select columns name clause =>
      simp only [Statement.mentions, List.forall_mem_append, List.forall_mem_map] at has
      have opened : database.find name = .ok table := find_eq_ok found
      obtain ⟨condition, resolved⟩ := Table.exists_condition has.2 params
      simp only [execute, opened, Table.positions_eq_ok has.1, resolved, Outcome.ok_bind]
        at refused
      exact Table.malformedPattern_of_marked (Outcome.bind_pure_eq_error_iff.mp refused)
  | update name columns clause =>
      simp only [Statement.mentions, List.forall_mem_append, List.forall_mem_map] at has plain
      have opened : database.find name = .ok table := find_eq_ok found
      obtain ⟨condition, resolved⟩ := Table.exists_condition has.2 (params.drop columns.length)
      simp only [execute, checkPlain_eq_ok plain.1, opened, Table.positions_eq_ok has.1, resolved,
        Outcome.ok_bind] at refused
      exact Table.malformedPattern_of_marked (Outcome.bind_pure_eq_error_iff.mp refused)
  | delete name clause =>
      have opened : database.find name = .ok table := find_eq_ok found
      obtain ⟨condition, resolved⟩ := Table.exists_condition (List.forall_mem_map.mp has) params
      simp only [execute, opened, resolved, Outcome.ok_bind] at refused
      exact Table.malformedPattern_of_marked (Outcome.bind_pure_eq_error_iff.mp refused)
  | insert name columns =>
      have complete : table.missing?
          (table.newRow ((columns.map table.positionOf).zip params)) = none := by
        apply Table.missing?_eq_none tidy
        intro definition member required
        obtain ⟨position, text, named, given⟩ :=
          within.filled name columns rfl definition member required
        exact Table.isSome_lookup named given
      have executed : database.execute meaning (.insert name columns) params = .ok _ :=
        execute_insert plain found has complete
      rw [executed] at refused
      cases refused

end Within

/-- A table that is there is still found after a creation. -/
theorem find?_create {after : Database} {columns : List ColumnDefinition} {created : String}
    (found : database.find? name = some table)
    (done : database.create created columns = .ok after) : after.find? name = some table := by
  obtain ⟨others, tables⟩ := tables_create done
  have here := (isHere_of_find? found).1
  rw [find?_of_isHere here] at found ⊢
  rw [tables, List.find?_append, found, Option.some_or]

/-- No statement changes the columns of its table. -/
theorem find?_execute {statement : Statement} {params : List String} {outcome : Outcome}
    {after : Database} (found : database.find? statement.table = some table)
    (executed : database.execute meaning statement params = .ok (outcome, after)) :
    ∃ rows, after.find? statement.table = some { table with rows := rows } := by
  have only : ∀ other, database.find statement.table = .ok other → other = table := by
    intro other opened
    rw [find_eq_ok found] at opened
    exact (Except.ok.inj opened).symm
  cases statement with
  | create name columns =>
      obtain ⟨created, done, same⟩ := Outcome.bind_eq_ok_iff.mp executed
      cases same
      exact ⟨table.rows, find?_create found done⟩
  | select columns name clause =>
      obtain ⟨_, _, executed⟩ := Outcome.bind_eq_ok_iff.mp executed
      obtain ⟨_, _, executed⟩ := Outcome.bind_eq_ok_iff.mp executed
      obtain ⟨_, _, executed⟩ := Outcome.bind_eq_ok_iff.mp executed
      obtain ⟨_, _, same⟩ := Outcome.bind_eq_ok_iff.mp executed
      cases same
      exact ⟨table.rows, found⟩
  | update name columns clause =>
      obtain ⟨_, _, executed⟩ := Outcome.bind_eq_ok_iff.mp executed
      obtain ⟨other, opened, executed⟩ := Outcome.bind_eq_ok_iff.mp executed
      obtain ⟨_, _, executed⟩ := Outcome.bind_eq_ok_iff.mp executed
      obtain ⟨_, _, executed⟩ := Outcome.bind_eq_ok_iff.mp executed
      obtain ⟨_, _, same⟩ := Outcome.bind_eq_ok_iff.mp executed
      obtain rfl := only other opened
      cases same
      exact ⟨_, find?_replace found _⟩
  | delete name clause =>
      obtain ⟨other, opened, executed⟩ := Outcome.bind_eq_ok_iff.mp executed
      obtain ⟨_, _, executed⟩ := Outcome.bind_eq_ok_iff.mp executed
      obtain ⟨_, _, same⟩ := Outcome.bind_eq_ok_iff.mp executed
      obtain rfl := only other opened
      cases same
      exact ⟨_, find?_replace found _⟩
  | insert name columns =>
      obtain ⟨_, _, executed⟩ := Outcome.bind_eq_ok_iff.mp executed
      obtain ⟨other, opened, executed⟩ := Outcome.bind_eq_ok_iff.mp executed
      obtain ⟨_, _, executed⟩ := Outcome.bind_eq_ok_iff.mp executed
      obtain rfl := only other opened
      simp only at executed
      split at executed
      · cases executed
      · cases executed
        exact ⟨_, find?_replace found _⟩

/-! ## Created tables -/

/-- The columns of a table that is created have different names without points. -/
theorem of_checkDefinitions {earlier : List String} {columns : List ColumnDefinition}
    (checked : checkDefinitions earlier columns = .ok ()) :
    (∀ definition ∈ columns, isQualified definition.name = false ∧
        ∀ name ∈ earlier, foldName definition.name ≠ foldName name) ∧
      (columns.map fun definition => foldName definition.name).Nodup := by
  induction columns generalizing earlier with
  | nil => exact ⟨List.forall_mem_nil _, List.nodup_nil⟩
  | cons definition columns ih =>
      unfold checkDefinitions at checked
      split at checked
      · cases checked
      · next plain =>
          split at checked
          · cases checked
          · next unused =>
              obtain ⟨others, distinct⟩ := ih checked
              have fresh : ∀ name ∈ earlier, foldName definition.name ≠ foldName name :=
                fun name member same =>
                  unused (List.any_eq_true.mpr ⟨name, member, sameName_iff.mpr same⟩)
              refine ⟨List.forall_mem_cons.mpr ⟨⟨eq_false_of_ne_true plain, fresh⟩, ?_⟩, ?_⟩
              · intro other member
                obtain ⟨otherPlain, apart⟩ := others other member
                exact ⟨otherPlain, fun name old => apart name (List.mem_cons_of_mem _ old)⟩
              · rw [List.map_cons, List.nodup_cons]
                refine ⟨fun again => ?_, distinct⟩
                obtain ⟨other, member, same⟩ := List.mem_map.mp again
                exact (others other member).2 _ List.mem_cons_self same

/-- A table that was not there is found as it was created, and is tidy. -/
theorem find?_create_new {after : Database} {columns : List ColumnDefinition}
    (absent : database.find? name = none) (created : database.create name columns = .ok after) :
    after.find? name = some ⟨(splitName name).2, columns, []⟩ ∧
      (Table.mk (splitName name).2 columns []).Tidy := by
  have here : IsHere name := by
    unfold create at created
    unfold IsHere
    generalize splitName name = parts at created ⊢
    rcases parts with ⟨_ | schema, own⟩
    · rfl
    · simp only at created
      split at created
      · next same => exact sameName_iff.mpr (sameName_iff.mp same).symm
      · cases created
  have unknown : database.tables.find? (fun other => sameName other.name (splitName name).2) =
      none := (find?_of_isHere here).symm.trans absent
  rw [create_eq_createHere here, create.createHere] at created
  split at created
  · next known =>
      obtain ⟨other, member, same⟩ := List.any_eq_true.mp known
      exact absurd same (List.find?_eq_none.mp unknown other member)
  · obtain ⟨_, checked, same⟩ := Outcome.bind_eq_ok_iff.mp created
    cases same
    obtain ⟨each, distinct⟩ := of_checkDefinitions checked
    refine ⟨?_, fun definition member => (each definition member).1, distinct⟩
    rw [find?_of_isHere here, List.find?_append, unknown, Option.none_or, List.find?_singleton,
      if_pos (sameName_self _)]

end Database

/-! ## Connections to a table -/

/-- A statement as it is sent is about a table and keeps within definitions. -/
def Prepared.Within (name : String) (definitions : List ColumnDefinition) (sent : Prepared) :
    Prop :=
  ∃ statement, Statement.read? sent.sql = some statement ∧ statement.table = name ∧
    statement.Within definitions sent.params

namespace Connection

variable {meaning : PatternMeaning}

/-- An open connection on which a table is found by a name, with any rows. -/
def Offers (name : String) (table : Table) (connection : Connection) : Prop :=
  connection.isOpen = true ∧
    ∃ rows, connection.database.find? name = some { table with rows := rows }

/-- Rows that cannot be read are no refusal. -/
theorem exists_reason_of_rowsOf {width : Nat} {outcome : Outcome} {error : Error}
    (failed : rowsOf width outcome = .error error) : ∃ reason, error = .deserialization reason := by
  cases outcome with
  | affected count => cases failed
  | rows rows =>
      obtain ⟨cells, member, refused⟩ := Outcome.exists_of_mapM_eq_error failed
      obtain ⟨row, _, rfl⟩ := List.mem_map.mp member
      unfold decodeRow at refused
      split at refused
      · rw [decodeCells_ofText?] at refused
        cases refused
      · exact ⟨_, (Except.error.inj refused).symm⟩

section Offers

variable {name : String} {table : Table} {connection : Connection} {sent : Prepared}
variable (tidy : table.Tidy) (within : sent.Within name table.columns)
  (offers : connection.Offers name table)
include tidy within offers

/-- A statement within the definitions of a tidy table leaves its columns as they are, and is
refused only because of a malformed pattern. -/
theorem send_within :
    (connection.send (Database.execute meaning) sent).2.Offers name table ∧
      ∀ error, (connection.send (Database.execute meaning) sent).1 = .error error →
        error = Refusal.malformedPattern.toFailure.toError := by
  obtain ⟨isOpen, rows, found⟩ := offers
  obtain ⟨statement, reads, rfl, within⟩ := within
  rw [send_eq isOpen reads]
  cases executed : connection.database.execute meaning statement sent.params with
  | ok result =>
      obtain ⟨outcome, after⟩ := result
      have kept := Database.find?_execute found executed
      exact ⟨⟨isOpen, kept⟩, fun error failed => nomatch failed⟩
  | error refusal =>
      refine ⟨⟨isOpen, rows, found⟩, fun error failed => ?_⟩
      have kept : Table.Tidy { table with rows := rows } := ⟨tidy.plain, tidy.distinct⟩
      have same := Database.malformedPattern_of_execute kept found within executed
      exact same ▸ (Except.error.inj failed).symm

end Offers

/-- Over a connection, statements within the definitions of a tidy table keep its columns, and
fail only because of a malformed pattern or of rows that cannot be read. -/
theorem keeps_within {name : String} {table : Table} (tidy : table.Tidy) :
    (executor meaning).Keeps (Prepared.Within name table.columns) (Offers name table)
      fun error => error = Refusal.malformedPattern.toFailure.toError ∨
        ∃ reason, error = .deserialization reason where
  fetch := by
    intro sent connection within offers
    obtain ⟨kept, refused⟩ := send_within tidy within offers
    refine ⟨kept, fun error failed => ?_⟩
    rcases Outcome.bind_eq_error_iff.mp failed with own | ⟨outcome, _, unread⟩
    · exact Or.inl (refused error own)
    · exact Or.inr (exists_reason_of_rowsOf unread)
  execute := by
    intro sent connection within offers
    obtain ⟨kept, refused⟩ := send_within tidy within offers
    refine ⟨kept, fun error failed => Or.inl (refused error ?_)⟩
    exact Outcome.map_eq_error_iff.mp failed

end Connection

end EntryStore.Sql
