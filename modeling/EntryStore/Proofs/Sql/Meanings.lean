import EntryStore.Proofs.Regex.Limits
import EntryStore.Proofs.Sql.Unchanged

/-!
# Meanings that refuse patterns

How patterns are understood may be limited: some patterns are refused, as if they were malformed,
and the others mean what they mean without the limit.  A statement that succeeds under the limit
has met no refused pattern, so that it succeeds without the limit, too, with the same outcome.
The same goes for programs.  In the other direction, a program of one statement, or of one and
insertions behind it, does under the limit what it does without it, or fails and changes nothing.
-/

namespace EntryStore

namespace Sql

/-- What is understood under one meaning is understood in the same way under another one. -/
def Refines (meaning other : PatternMeaning) : Prop :=
  ∀ ⦃pattern : String⦄ ⦃matched : String → Bool⦄, meaning pattern = some matched →
    other pattern = some matched

/-- The limit of size gives no pattern another meaning. -/
theorem matcher?_refines : Refines Regex.matcher? Regex.meaning? := fun _ _ =>
  Regex.meaning?_of_matcher?

variable {meaning other : PatternMeaning} (refines : Refines meaning other)
include refines

theorem Condition.holds_of_refines {condition : Condition} {row : Row} {passes : Bool}
    (holds : condition.holds meaning row = some passes) :
    condition.holds other row = some passes := by
  induction condition generalizing passes with
  | isMatch position pattern =>
      obtain ⟨matched, understood, rest⟩ := Option.bind_eq_some_iff.mp holds
      exact Option.bind_eq_some_iff.mpr ⟨matched, refines understood, rest⟩
  | and left right leftHolds rightHolds =>
      obtain ⟨first, evaluated, rest⟩ := Option.bind_eq_some_iff.mp holds
      refine Option.bind_eq_some_iff.mpr ⟨first, leftHolds evaluated, ?_⟩
      cases first with
      | true => exact rightHolds rest
      | false => exact rest
  | or left right leftHolds rightHolds =>
      obtain ⟨first, evaluated, rest⟩ := Option.bind_eq_some_iff.mp holds
      refine Option.bind_eq_some_iff.mpr ⟨first, leftHolds evaluated, ?_⟩
      cases first with
      | true => exact rest
      | false => exact rightHolds rest

theorem Table.admits_of_refines {condition : Option Condition} {row : Row} {passes : Bool}
    (admits : Table.admits meaning condition row = .ok passes) :
    Table.admits other condition row = .ok passes := by
  cases condition with
  | none => exact admits
  | some condition =>
      unfold Table.admits at admits ⊢
      simp only at admits ⊢
      split at admits
      · next evaluated =>
          rw [condition.holds_of_refines refines evaluated]
          exact admits
      · cases admits

theorem Table.marked_of_refines {table : Table} {condition : Option Condition}
    {marked : List (Row × Bool)} (done : table.marked meaning condition = .ok marked) :
    table.marked other condition = .ok marked := by
  rw [Table.marked, Outcome.mapM_eq_ok_iff] at done ⊢
  refine done.imp fun row entry paired => ?_
  obtain ⟨passes, admits, rest⟩ := Outcome.bind_eq_ok_iff.mp paired
  exact Outcome.bind_eq_ok_iff.mpr ⟨passes, Table.admits_of_refines refines admits, rest⟩

/-- A statement that succeeds has the same outcome where more patterns are understood. -/
theorem Database.execute_of_refines {database : Database} {statement : Statement}
    {params : List String} {result : Outcome × Database}
    (executed : database.execute meaning statement params = .ok result) :
    database.execute other statement params = .ok result := by
  cases statement with
  | create name columns => exact executed
  | insert name columns => exact executed
  | select columns name clause =>
      obtain ⟨table, found, executed⟩ := Outcome.bind_eq_ok_iff.mp executed
      obtain ⟨positions, projected, executed⟩ := Outcome.bind_eq_ok_iff.mp executed
      obtain ⟨condition, resolved, executed⟩ := Outcome.bind_eq_ok_iff.mp executed
      obtain ⟨marked, done, rest⟩ := Outcome.bind_eq_ok_iff.mp executed
      simp only [execute, found, projected, resolved, Table.marked_of_refines refines done,
        Outcome.ok_bind]
      exact rest
  | update name columns clause =>
      obtain ⟨_, checked, executed⟩ := Outcome.bind_eq_ok_iff.mp executed
      obtain ⟨table, found, executed⟩ := Outcome.bind_eq_ok_iff.mp executed
      obtain ⟨positions, written, executed⟩ := Outcome.bind_eq_ok_iff.mp executed
      obtain ⟨condition, resolved, executed⟩ := Outcome.bind_eq_ok_iff.mp executed
      obtain ⟨marked, done, rest⟩ := Outcome.bind_eq_ok_iff.mp executed
      simp only [execute, checked, found, written, resolved, Table.marked_of_refines refines done,
        Outcome.ok_bind]
      exact rest
  | delete name clause =>
      obtain ⟨table, found, executed⟩ := Outcome.bind_eq_ok_iff.mp executed
      obtain ⟨condition, resolved, executed⟩ := Outcome.bind_eq_ok_iff.mp executed
      obtain ⟨marked, done, rest⟩ := Outcome.bind_eq_ok_iff.mp executed
      simp only [execute, found, resolved, Table.marked_of_refines refines done, Outcome.ok_bind]
      exact rest

namespace Connection

variable {connection after : Connection} {sent : Prepared}

theorem send_of_refines {outcome : Outcome}
    (answered : connection.send (Database.execute meaning) sent = (.ok outcome, after)) :
    connection.send (Database.execute other) sent = (.ok outcome, after) := by
  unfold send Database.run at answered ⊢
  split at answered
  · next isOpen =>
      rw [if_pos isOpen]
      split at answered
      · next executed =>
          split at executed
          · next statement reads =>
              rw [Database.execute_of_refines refines executed]
              exact answered
          · cases executed
      · cases answered
  · cases answered

/-- A statement that succeeds without the limit has the same outcome under it, or fails and changes
nothing. -/
theorem send_or_refused {outcome : Outcome}
    (answered : connection.send (Database.execute other) sent = (.ok outcome, after)) :
    (∃ error, connection.send (Database.execute meaning) sent = (.error error, connection)) ∨
      connection.send (Database.execute meaning) sent = (.ok outcome, after) := by
  rcases limited : connection.send (Database.execute meaning) sent with ⟨error | result, left⟩
  · rw [eq_of_send_error limited]
    exact Or.inl ⟨error, rfl⟩
  · right
    rw [← answered, send_of_refines refines limited]

section Replies

variable {β : Type} (read : Except Error Outcome → Except Error β)
  (strict : ∀ error, read (.error error) = .error error) {result : β}
include strict

/-- What is read off the reply to a statement is read where more patterns are understood. -/
theorem reply_of_refines
    (answered : (connection.send (Database.execute meaning) sent).map read id =
      (.ok result, after)) :
    (connection.send (Database.execute other) sent).map read id = (.ok result, after) := by
  rcases replied : connection.send (Database.execute meaning) sent with ⟨error | outcome, left⟩
  · rw [replied, Prod.map_apply, strict] at answered
    cases answered
  · rw [replied] at answered
    rw [send_of_refines refines replied]
    exact answered

/-- What is read off a reply without the limit is read under it, or the statement fails. -/
theorem reply_or_refused
    (answered : (connection.send (Database.execute other) sent).map read id =
      (.ok result, after)) :
    (∃ error, (connection.send (Database.execute meaning) sent).map read id =
        (.error error, connection)) ∨
      (connection.send (Database.execute meaning) sent).map read id = (.ok result, after) := by
  rcases replied : connection.send (Database.execute other) sent with ⟨error | outcome, left⟩
  · rw [replied, Prod.map_apply, strict] at answered
    cases answered
  · rw [replied] at answered
    rcases send_or_refused refines replied with ⟨error, refused⟩ | same
    · rw [refused, Prod.map_apply, strict]
      exact Or.inl ⟨error, rfl⟩
    · rw [same]
      exact Or.inr answered

end Replies

theorem fetch_of_refines {rows : List Row}
    (fetched : (executor meaning).fetch sent connection = (.ok rows, after)) :
    (executor other).fetch sent connection = (.ok rows, after) :=
  reply_of_refines refines (· >>= rowsOf sent.width) (fun _ => rfl) fetched

theorem execute_of_refines {count : Nat}
    (executed : (executor meaning).execute sent connection = (.ok count, after)) :
    (executor other).execute sent connection = (.ok count, after) :=
  reply_of_refines refines (Except.map countOf) (fun _ => rfl) executed

theorem fetch_or_refused {rows : List Row}
    (fetched : (executor other).fetch sent connection = (.ok rows, after)) :
    (∃ error, (executor meaning).fetch sent connection = (.error error, connection)) ∨
      (executor meaning).fetch sent connection = (.ok rows, after) :=
  reply_or_refused refines (· >>= rowsOf sent.width) (fun _ => rfl) fetched

theorem execute_or_refused {count : Nat}
    (executed : (executor other).execute sent connection = (.ok count, after)) :
    (∃ error, (executor meaning).execute sent connection = (.error error, connection)) ∨
      (executor meaning).execute sent connection = (.ok count, after) :=
  reply_or_refused refines (Except.map countOf) (fun _ => rfl) executed

end Connection

/-! ## Refusals -/

section Refused

omit refines

namespace Condition

theorem holds_group_of_refused {left : Condition} {row : Row}
    (refused : left.holds meaning row = none) (leaves : List Leaf) :
    (group left leaves).1.holds meaning row = none := by
  induction leaves generalizing left with
  | nil => exact refused
  | cons leaf rest ih =>
      have either : ∀ right : Condition, (Condition.and left right).holds meaning row = none := by
        intro right
        rw [holds, refused]
        rfl
      rcases leaf with ⟨_ | _ | _, position, pattern⟩
      · exact ih (either _)
      · exact ih (either _)
      · exact refused

theorem holds_alternatives_of_refused {left : Condition} {row : Row}
    (refused : left.holds meaning row = none) (leaves : List Leaf) :
    (alternatives left leaves).holds meaning row = none := by
  induction left, leaves using alternatives.induct with
  | case1 left =>
      rw [alternatives]
      exact refused
  | case2 left link position pattern rest next ih =>
      rw [alternatives]
      apply ih
      rw [holds, refused]
      rfl

end Condition

/-- Where the first pattern of a clause is refused, the clause is refused at the first row. -/
theorem Table.marked_of_refused {table : Table} (nonempty : table.rows ≠ [])
    {first : Condition.Leaf} (refused : meaning first.2.2 = none) (rest : List Condition.Leaf) :
    table.marked meaning (Condition.ofLeaves (first :: rest)) = .error .malformedPattern := by
  obtain ⟨row, rows, some⟩ := List.exists_cons_of_ne_nil nonempty
  have unknown : (Condition.isMatch first.2.1 first.2.2).holds meaning row = none := by
    rw [Condition.holds, refused]
    rfl
  have held := Condition.holds_alternatives_of_refused
    (Condition.holds_group_of_refused unknown rest)
    (Condition.group (.isMatch first.2.1 first.2.2) rest).2
  have admitted : Table.admits meaning (Condition.ofLeaves (first :: rest)) row =
      .error .malformedPattern := by
    rw [Condition.ofLeaves, Table.admits]
    simp only [held]
  rw [Table.marked, some, List.mapM_cons, admitted]
  rfl

/-- A selection by a refused pattern is refused, if there is a row. -/
theorem Database.execute_select_of_refused {database : Database} {name : String} {table : Table}
    (found : database.find? name = some table) (nonempty : table.rows ≠ [])
    {columns : List String} (has : ∀ column ∈ columns, table.Has column)
    {clause : List Term} {params : List String} {first : Condition.Leaf}
    {rest : List Condition.Leaf}
    (resolved : table.condition clause params = .ok (Condition.ofLeaves (first :: rest)))
    (refused : meaning first.2.2 = none) :
    database.execute meaning (.select columns name clause) params = .error .malformedPattern := by
  simp only [execute, find_eq_ok found, Table.positions_eq_ok has, resolved,
    Table.marked_of_refused nonempty refused, bind, Except.bind]

end Refused

/-! ## Limits on programs -/

/-- A statement that inserts a row. -/
def Prepared.Inserts (sent : Prepared) : Prop :=
  ∃ name columns, Statement.read? sent.sql = some (.insert name columns)

omit refines in
/-- No pattern is looked at where a row is inserted. -/
theorem Connection.send_of_inserts {sent : Prepared} (inserts : sent.Inserts)
    (meaning other : PatternMeaning) (connection : Connection) :
    connection.send (Database.execute meaning) sent =
      connection.send (Database.execute other) sent := by
  obtain ⟨name, columns, reads⟩ := inserts
  simp only [send, Database.run, reads, Database.execute]

end Sql

open Sql (Connection PatternMeaning Prepared Refines)

namespace Program

variable {α : Type} {program : Program α} {meaning other : PatternMeaning}

/-- The statements of a program behind its first one have a property. -/
def SendsLater (property : Prepared → Prop) : Program α → Prop
  | .done _ => True
  | .fail _ => True
  | .fetch _ next => ∀ rows, (next rows).Sends property
  | .execute _ next => ∀ count, (next count).Sends property

theorem SendsLater.finish {β : Type} {property : Prepared → Prop}
    (later : program.SendsLater property) (finish : α → β) :
    (program.bind fun result => .done (finish result)).SendsLater property := by
  cases program with
  | done result => trivial
  | fail error => trivial
  | fetch statement next => exact fun rows => (later rows).bind fun _ => trivial
  | execute statement next => exact fun count => (later count).bind fun _ => trivial

/-- Insertions run in the same way under all meanings. -/
theorem run_of_inserts (inserts : program.Sends Prepared.Inserts) (connection : Connection) :
    program.run (Connection.executor meaning) connection =
      program.run (Connection.executor other) connection := by
  induction program generalizing connection with
  | done result => rw [run, run]
  | fail error => rw [run, run]
  | fetch statement next ih =>
      have same : (Connection.executor meaning).fetch statement connection =
          (Connection.executor other).fetch statement connection := by
        simp only [Connection.executor, Connection.executorBy,
          Connection.send_of_inserts inserts.1 meaning other]
      rw [run, run, same]
      split
      · exact ih _ (inserts.2 _) _
      · rfl
  | execute statement next ih =>
      have same : (Connection.executor meaning).execute statement connection =
          (Connection.executor other).execute statement connection := by
        simp only [Connection.executor, Connection.executorBy,
          Connection.send_of_inserts inserts.1 meaning other]
      rw [run, run, same]
      split
      · exact ih _ (inserts.2 _) _
      · rfl

variable (refines : Refines meaning other) {before after : Connection} {result : α}
include refines

/-- A program of a statement and of insertions behind it, if any, does under the limit what it does
without it, or fails and changes nothing. -/
theorem run_or_refused (inserts : program.SendsLater Prepared.Inserts)
    (ran : program.run (Connection.executor other) before = (.ok result, after)) :
    (∃ error, program.run (Connection.executor meaning) before = (.error error, before)) ∨
      program.run (Connection.executor meaning) before = (.ok result, after) := by
  cases program with
  | done own =>
      rw [run] at ran ⊢
      exact Or.inr ran
  | fail error => cases ran
  | fetch statement next =>
      rcases fetched : (Connection.executor other).fetch statement before with ⟨error | rows, left⟩
      · rw [run, fetched] at ran
        cases ran
      · rw [run, fetched] at ran
        rcases Connection.fetch_or_refused refines fetched with ⟨error, refused⟩ | same
        · rw [run, refused]
          exact Or.inl ⟨error, rfl⟩
        · rw [run, same]
          exact Or.inr ((run_of_inserts (inserts rows) left).trans ran)
  | execute statement next =>
      rcases executed : (Connection.executor other).execute statement before with
        ⟨error | count, left⟩
      · rw [run, executed] at ran
        cases ran
      · rw [run, executed] at ran
        rcases Connection.execute_or_refused refines executed with ⟨error, refused⟩ | same
        · rw [run, refused]
          exact Or.inl ⟨error, rfl⟩
        · rw [run, same]
          exact Or.inr ((run_of_inserts (inserts count) left).trans ran)

/-- A program that succeeds runs in the same way where more patterns are understood. -/
theorem run_of_refines
    (ran : program.run (Connection.executor meaning) before = (.ok result, after)) :
    program.run (Connection.executor other) before = (.ok result, after) := by
  induction program generalizing before with
  | done value =>
      rw [run] at ran ⊢
      exact ran
  | fail error => cases ran
  | fetch statement next ih =>
      rw [run] at ran ⊢
      rcases fetched : (Connection.executor meaning).fetch statement before with
        ⟨error | rows, between⟩
      · rw [fetched] at ran
        cases ran
      · rw [fetched] at ran
        rw [Connection.fetch_of_refines refines fetched]
        exact ih rows ran
  | execute statement next ih =>
      rw [run] at ran ⊢
      rcases executed : (Connection.executor meaning).execute statement before with
        ⟨error | count, between⟩
      · rw [executed] at ran
        cases ran
      · rw [executed] at ran
        rw [Connection.execute_of_refines refines executed]
        exact ih count ran

end Program

end EntryStore
