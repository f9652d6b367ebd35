import EntryStore.Proofs.Sql.Refusals

/-!
# Statements that change nothing

A selection leaves a database as it is, and so does a statement that is refused, as any one about a
table that is not there.  Where a database may not change, no statement changes it.  A run of such
statements ends in the state in which it began.
-/

namespace EntryStore.Sql

variable {meaning : PatternMeaning}

namespace Database

variable {database after : Database} {params : List String} {outcome : Outcome}

theorem eq_of_select {columns : List String} {name : String} {clause : List Term}
    (executed : database.execute meaning (.select columns name clause) params =
      .ok (outcome, after)) : after = database := by
  obtain ⟨_, _, executed⟩ := Outcome.bind_eq_ok_iff.mp executed
  obtain ⟨_, _, executed⟩ := Outcome.bind_eq_ok_iff.mp executed
  obtain ⟨_, _, executed⟩ := Outcome.bind_eq_ok_iff.mp executed
  obtain ⟨_, _, same⟩ := Outcome.bind_eq_ok_iff.mp executed
  cases same
  rfl

theorem find?_empty (name : String) : empty.find? name = none := by
  simp only [find?, empty, List.find?_nil, ite_self]

/-- Only a table that is there can be read or changed. -/
theorem exists_refusal_of_absent {statement : Statement}
    (absent : database.find? statement.table = none)
    (standing : ∀ name columns, statement ≠ .create name columns) :
    ∃ refusal, database.execute meaning statement params = .error refusal := by
  have missing : database.find statement.table = .error (.noTable statement.table) := by
    rw [find, absent]
  cases statement with
  | create name columns => exact absurd rfl (standing name columns)
  | select columns name clause =>
      change database.find name = _ at missing
      rw [execute, missing]
      exact ⟨_, rfl⟩
  | delete name clause =>
      change database.find name = _ at missing
      rw [execute, missing]
      exact ⟨_, rfl⟩
  | update name columns clause =>
      change database.find name = _ at missing
      rw [execute, missing]
      cases checkPlain columns <;> exact ⟨_, rfl⟩
  | insert name columns =>
      change database.find name = _ at missing
      rw [execute, missing]
      cases checkPlain columns <;> exact ⟨_, rfl⟩

theorem eq_of_executeReadOnly {statement : Statement}
    (executed : database.executeReadOnly meaning statement params = .ok (outcome, after)) :
    after = database := by
  unfold executeReadOnly at executed
  split at executed
  · exact eq_of_select executed
  · split at executed
    · cases executed
      rfl
    · cases executed
  · cases executed
  · cases executed

/-- Where a database may not change, every statement that would change rows is refused. -/
theorem exists_refusal_of_readOnly {statement : Statement}
    (changes : ∀ columns name clause, statement ≠ .select columns name clause)
    (standing : ∀ name columns, statement ≠ .create name columns) :
    ∃ refusal, database.executeReadOnly meaning statement params = .error refusal := by
  unfold executeReadOnly
  split
  · next columns name clause => exact absurd rfl (changes columns name clause)
  · next name columns _ _ _ => exact absurd rfl (standing name columns)
  · exact ⟨_, rfl⟩
  · exact ⟨_, rfl⟩

end Database

/-- A statement that selects. -/
def Prepared.Selects (sent : Prepared) : Prop :=
  ∃ columns name clause, Statement.read? sent.sql = some (.select columns name clause)

namespace Connection

variable {connection : Connection} {sent : Prepared}

/-- A connection is left as it is where its database is. -/
theorem send_snd_eq {execution : Database.Execution}
    (same : ∀ statement outcome after, Statement.read? sent.sql = some statement →
      execution connection.database statement sent.params = .ok (outcome, after) →
        after = connection.database) :
    (connection.send execution sent).2 = connection := by
  unfold send
  split
  · split
    · next outcome after ran =>
        unfold Database.run at ran
        split at ran
        · next statement reads => rw [same statement outcome after reads ran]
        · cases ran
    · rfl
  · rfl

theorem keeps_of_send {execution : Database.Execution} {property : Prepared → Prop}
    (unchanged : ∀ sent, property sent → (connection.send execution sent).2 = connection) :
    (executorBy execution).Keeps property (· = connection) fun _ => True where
  fetch := by
    rintro sent _ has rfl
    exact ⟨unchanged sent has, fun _ _ => trivial⟩
  execute := by
    rintro sent _ has rfl
    exact ⟨unchanged sent has, fun _ _ => trivial⟩

/-- Selections leave a connection as it is. -/
theorem keeps_selects (connection : Connection) :
    (executor meaning).Keeps Prepared.Selects (· = connection) fun _ => True := by
  refine keeps_of_send fun sent selects => send_snd_eq fun statement outcome after reads ran => ?_
  obtain ⟨columns, name, clause, reads'⟩ := selects
  cases reads.symm.trans reads'
  exact Database.eq_of_select ran

/-- A connection to a database that may not change is left as it is. -/
theorem keeps_readOnly (connection : Connection) :
    (readOnlyExecutor meaning).Keeps (fun _ => True) (· = connection) fun _ => True :=
  keeps_of_send fun _ _ => send_snd_eq fun _ _ _ _ ran => Database.eq_of_executeReadOnly ran

/-- A statement that is answered with an error changes nothing. -/
theorem eq_of_send_error {execution : Database.Execution} {after : Connection} {error : Error}
    (failed : connection.send execution sent = (.error error, after)) : after = connection := by
  unfold send at failed
  split at failed
  · split at failed
    · cases failed
    · exact (Prod.mk.inj failed).2.symm
  · exact (Prod.mk.inj failed).2.symm

theorem eq_of_execute_error {execution : Database.Execution} {after : Connection} {error : Error}
    (failed : (executorBy execution).execute sent connection = (.error error, after)) :
    after = connection := by
  simp only [executorBy] at failed
  rcases answered : connection.send execution sent with ⟨refusal | outcome, left⟩
  · rw [answered] at failed
    exact (Prod.mk.inj failed).2.symm.trans (eq_of_send_error answered)
  · rw [answered] at failed
    cases failed

/-- A statement that is refused is answered with an error, and changes nothing. -/
theorem exists_error_of_refused {execution : Database.Execution} {statement : Statement}
    (reads : Statement.read? sent.sql = some statement)
    (refused : ∃ refusal, execution connection.database statement sent.params = .error refusal) :
    ∃ error, (executorBy execution).execute sent connection = (.error error, connection) := by
  by_cases isOpen : connection.isOpen = true
  · obtain ⟨refusal, refused⟩ := refused
    refine ⟨refusal.toFailure.toError, ?_⟩
    simp only [executorBy, send, if_pos isOpen, Database.run, reads, refused]
    rfl
  · refine ⟨Failure.poolClosed.toError, ?_⟩
    simp only [executorBy, send, if_neg isOpen]
    rfl

end Connection

end EntryStore.Sql

namespace EntryStore.Program

variable {α : Type}

theorem sends_true (program : Program α) : program.Sends fun _ => True := by
  induction program with
  | done result => trivial
  | fail error => trivial
  | fetch statement next ih => exact ⟨trivial, ih⟩
  | execute statement next ih => exact ⟨trivial, ih⟩

end EntryStore.Program
