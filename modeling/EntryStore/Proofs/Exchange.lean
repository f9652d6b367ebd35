import EntryStore.Program

/-!
# What programs exchange with their executor

A run sends statements and gets replies.  An executor can keep them without changing the run, so
that the log of a run tells what was sent in it.  `Program.Ensures` says what a program does by
itself with the rows of the last reply, and explains every error of a run by the end of its log.
-/

namespace EntryStore

variable {σ α β : Type}

/-- A statement that was sent, and the reply to it. -/
inductive Exchange where
  | fetched (statement : Sql.Prepared) (reply : Except Error (List Row))
  | executed (statement : Sql.Prepared) (reply : Except Error Nat)

namespace Exchange

/-- The statement that was sent. -/
def statement : Exchange → Sql.Prepared
  | .fetched statement _ => statement
  | .executed statement _ => statement

/-- The error of a reply. -/
def failure? : Exchange → Option Error
  | .fetched _ (.error error) => some error
  | .executed _ (.error error) => some error
  | _ => none

/-- The rows of a reply. -/
def rows : Exchange → List Row
  | .fetched _ (.ok rows) => rows
  | _ => []

end Exchange

/-- The executor that also appends each exchange to a log. -/
def Executor.logged (executor : Executor σ) : Executor (σ × List Exchange) where
  fetch := fun statement (state, log) =>
    let (reply, after) := executor.fetch statement state
    (reply, after, log ++ [.fetched statement reply])
  execute := fun statement (state, log) =>
    let (reply, after) := executor.execute statement state
    (reply, after, log ++ [.executed statement reply])

theorem Executor.logged_fetch (executor : Executor σ) (statement : Sql.Prepared) (state : σ)
    (earlier : List Exchange) :
    executor.logged.fetch statement (state, earlier) =
      ((executor.fetch statement state).1, (executor.fetch statement state).2,
        earlier ++ [.fetched statement (executor.fetch statement state).1]) := rfl

theorem Executor.logged_execute (executor : Executor σ) (statement : Sql.Prepared) (state : σ)
    (earlier : List Exchange) :
    executor.logged.execute statement (state, earlier) =
      ((executor.execute statement state).1, (executor.execute statement state).2,
        earlier ++ [.executed statement (executor.execute statement state).1]) := rfl

namespace Program

/-- What a program exchanges with an executor. -/
def log (executor : Executor σ) (program : Program α) (state : σ) : List Exchange :=
  (program.run executor.logged (state, [])).2.2

/-! ## Logs -/

section Logs

variable {executor : Executor σ}

/-- A log does not change the run, and goes on behind what is there already. -/
theorem run_logged (program : Program α) (state : σ) (earlier : List Exchange) :
    program.run executor.logged (state, earlier) =
      ((program.run executor state).1, (program.run executor state).2,
        earlier ++ program.log executor state) := by
  induction program generalizing state earlier with
  | done result => simp [log, run]
  | fail error => simp [log, run]
  | fetch statement next ih =>
      simp only [log, run, Executor.logged_fetch]
      rcases executor.fetch statement state with ⟨_ | rows, after⟩
      · simp
      · simp [ih]
  | execute statement next ih =>
      simp only [log, run, Executor.logged_execute]
      rcases executor.execute statement state with ⟨_ | count, after⟩
      · simp
      · simp [ih]

variable {statement : Sql.Prepared} {state after : σ}

theorem log_fetch_ok {rows : List Row}
    (sent : executor.fetch statement state = (.ok rows, after)) (next : List Row → Program α) :
    (Program.fetch statement next).log executor state =
      .fetched statement (.ok rows) :: (next rows).log executor after := by
  rw [log, run, Executor.logged_fetch, sent]
  simp [run_logged]

theorem log_fetch_error {error : Error}
    (sent : executor.fetch statement state = (.error error, after))
    (next : List Row → Program α) :
    (Program.fetch statement next).log executor state = [.fetched statement (.error error)] := by
  rw [log, run, Executor.logged_fetch, sent]
  simp

theorem log_execute_ok {count : Nat}
    (sent : executor.execute statement state = (.ok count, after)) (next : Nat → Program α) :
    (Program.execute statement next).log executor state =
      .executed statement (.ok count) :: (next count).log executor after := by
  rw [log, run, Executor.logged_execute, sent]
  simp [run_logged]

theorem log_execute_error {error : Error}
    (sent : executor.execute statement state = (.error error, after)) (next : Nat → Program α) :
    (Program.execute statement next).log executor state =
      [.executed statement (.error error)] := by
  rw [log, run, Executor.logged_execute, sent]
  simp

/-- A program that succeeds has had a number replied to its first statement. -/
theorem exists_of_run_execute {next : Nat → Program α} {result : α}
    (ran : (Program.execute statement next).run executor state = (.ok result, after)) :
    ∃ count between, executor.execute statement state = (.ok count, between) ∧
      (next count).run executor between = (.ok result, after) := by
  rcases sent : executor.execute statement state with ⟨error | count, between⟩
  · rw [run, sent] at ran
    cases ran
  · rw [run, sent] at ran
    exact ⟨count, between, rfl, ran⟩

/-- Only the result of a program is changed, not what it exchanges. -/
theorem log_finish (program : Program α) (finish : α → β) :
    (program.bind fun result => .done (finish result)).log executor state =
      program.log executor state := by
  rw [log, log, run_bind]
  rcases program.run executor.logged (state, []) with ⟨_ | result, after⟩ <;> rfl

theorem log_ofExcept (outcome : Except Error α) :
    (ofExcept outcome).log executor state = [] := by
  cases outcome <;> rfl

theorem log_rowsOf : (rowsOf statement).log executor state =
    [.fetched statement (executor.fetch statement state).1] := by
  simp only [rowsOf, log, run, Executor.logged_fetch, List.nil_append]
  rcases (executor.fetch statement state).1 with _ | rows <;> rfl

theorem log_countOf : (countOf statement).log executor state =
    [.executed statement (executor.execute statement state).1] := by
  simp only [countOf, log, run, Executor.logged_execute, List.nil_append]
  rcases (executor.execute statement state).1 with _ | count <;> rfl

end Logs

/-! ## Results and errors of a program itself -/

/-- Whatever is replied, the results and the errors of a program itself are so related to the rows
of the last reply. -/
def Ensures (returns : List Row → α → Prop) (raises : List Row → Error → Prop)
    (last : List Row) : Program α → Prop
  | .done result => returns last result
  | .fail error => raises last error
  | .fetch _ next => ∀ rows, (next rows).Ensures returns raises rows
  | .execute _ next => ∀ count, (next count).Ensures returns raises []

/-- An error ends a log: the last reply is the error, or the error was raised from the rows of
the last reply. -/
inductive Explained (raises : List Row → Error → Prop) (error : Error) :
    List Row → List Exchange → Prop where
  | raised {last : List Row} : raises last error → Explained raises error last []
  | failed {last : List Row} {exchange : Exchange} :
      exchange.failure? = some error → Explained raises error last [exchange]
  | later {last : List Row} {exchange : Exchange} {log : List Exchange} :
      exchange.failure? = none → Explained raises error exchange.rows log →
      Explained raises error last (exchange :: log)

section Ensures

variable {returns : List Row → α → Prop} {raises : List Row → Error → Prop}
variable {last : List Row} {program : Program α}

theorem Ensures.mono {returns' : List Row → α → Prop}
    (ensures : program.Ensures returns raises last)
    (weaker : ∀ rows result, returns rows result → returns' rows result) :
    program.Ensures returns' raises last := by
  induction program generalizing last with
  | done result => exact weaker last result ensures
  | fail error => exact ensures
  | fetch statement rest ih => exact fun rows => ih rows (ensures rows)
  | execute statement rest ih => exact fun count => ih count (ensures count)

theorem Ensures.bind {returns' : List Row → β → Prop} {next : α → Program β}
    (first : program.Ensures returns raises last)
    (second : ∀ rows result, returns rows result → (next result).Ensures returns' raises rows) :
    (program.bind next).Ensures returns' raises last := by
  induction program generalizing last with
  | done result => exact second last result first
  | fail error => exact first
  | fetch statement rest ih => exact fun rows => ih rows (first rows)
  | execute statement rest ih => exact fun count => ih count (first count)

theorem ensures_ofExcept {step : Except Error α}
    (results : ∀ result, step = .ok result → returns last result)
    (errors : ∀ error, step = .error error → raises last error) :
    (ofExcept step).Ensures returns raises last := by
  cases step with
  | ok result => exact results result rfl
  | error error => exact errors error rfl

/-- Every error of a run is explained by its log. -/
theorem Ensures.explained (ensures : program.Ensures returns raises last) {executor : Executor σ}
    {state : σ} {error : Error} (failed : (program.run executor state).1 = .error error) :
    Explained raises error last (program.log executor state) := by
  induction program generalizing last state with
  | done result => cases failed
  | fail own =>
      cases failed
      exact .raised ensures
  | fetch statement next ih =>
      rcases sent : executor.fetch statement state with ⟨refusal | rows, after⟩
      · rw [run, sent] at failed
        rw [log_fetch_error sent]
        cases failed
        exact .failed rfl
      · rw [run, sent] at failed
        rw [log_fetch_ok sent]
        exact .later rfl (ih rows (ensures rows) failed)
  | execute statement next ih =>
      rcases sent : executor.execute statement state with ⟨refusal | count, after⟩
      · rw [run, sent] at failed
        rw [log_execute_error sent]
        cases failed
        exact .failed rfl
      · rw [run, sent] at failed
        rw [log_execute_ok sent]
        exact .later rfl (ih count (ensures count) failed)

/-- Only the last reply can be an error.  Where it is not the error of the run, that was raised
from its rows, or before anything was sent. -/
theorem Explained.exists_last {error : Error} {log : List Exchange}
    (explained : Explained raises error last log) :
    (log = [] ∧ raises last error) ∨
      ∃ earlier final, log = earlier ++ [final] ∧
        (∀ exchange ∈ earlier, exchange.failure? = none) ∧
        (final.failure? = some error ∨ final.failure? = none ∧ raises final.rows error) := by
  induction explained with
  | raised own => exact Or.inl ⟨rfl, own⟩
  | failed refused => exact Or.inr ⟨[], _, rfl, List.forall_mem_nil _, Or.inl refused⟩
  | @later _ exchange _ answered _ ih =>
      rcases ih with ⟨rfl, own⟩ | ⟨earlier, final, rfl, succeeded, ends⟩
      · exact Or.inr ⟨[], exchange, rfl, List.forall_mem_nil _, Or.inr ⟨answered, own⟩⟩
      · exact Or.inr ⟨exchange :: earlier, final, rfl,
          List.forall_mem_cons.mpr ⟨answered, succeeded⟩, ends⟩

end Ensures

/-! ## What a program sends -/

/-- Whatever is replied, every statement that a program sends has a property. -/
def Sends (property : Sql.Prepared → Prop) : Program α → Prop
  | .done _ => True
  | .fail _ => True
  | .fetch statement next => property statement ∧ ∀ rows, (next rows).Sends property
  | .execute statement next => property statement ∧ ∀ count, (next count).Sends property

end Program

/-- On statements with a property an executor keeps an invariant of its state, and fails only with
certain errors. -/
structure Executor.Keeps (executor : Executor σ) (property : Sql.Prepared → Prop)
    (invariant : σ → Prop) (errors : Error → Prop) : Prop where
  fetch : ∀ statement state, property statement → invariant state →
    invariant (executor.fetch statement state).2 ∧
      ∀ error, (executor.fetch statement state).1 = .error error → errors error
  execute : ∀ statement state, property statement → invariant state →
    invariant (executor.execute statement state).2 ∧
      ∀ error, (executor.execute statement state).1 = .error error → errors error

namespace Program

section Sends

variable {property : Sql.Prepared → Prop} {program : Program α}

theorem Sends.bind {next : α → Program β} (first : program.Sends property)
    (second : ∀ result, (next result).Sends property) : (program.bind next).Sends property := by
  induction program with
  | done result => exact second result
  | fail error => trivial
  | fetch statement rest ih => exact ⟨first.1, fun rows => ih rows (first.2 rows)⟩
  | execute statement rest ih => exact ⟨first.1, fun count => ih count (first.2 count)⟩

theorem sends_ofExcept (outcome : Except Error α) : (ofExcept outcome).Sends property := by
  cases outcome <;> trivial

/-- A run keeps up what its executor keeps up on the statements that are sent. -/
theorem Sends.kept (sends : program.Sends property) {executor : Executor σ}
    {invariant : σ → Prop} {errors : Error → Prop}
    (keeps : executor.Keeps property invariant errors) {state : σ} (holds : invariant state) :
    invariant (program.run executor state).2 ∧
      ∀ exchange ∈ program.log executor state, property exchange.statement ∧
        ∀ error, exchange.failure? = some error → errors error := by
  induction program generalizing state with
  | done result => exact ⟨holds, List.forall_mem_nil _⟩
  | fail error => exact ⟨holds, List.forall_mem_nil _⟩
  | fetch statement next ih =>
      obtain ⟨has, later⟩ := sends
      obtain ⟨held, fails⟩ := keeps.fetch statement state has holds
      rcases sent : executor.fetch statement state with ⟨error | rows, after⟩
      · rw [sent] at held fails
        rw [run, sent, log_fetch_error sent, List.forall_mem_singleton]
        refine ⟨held, has, fun own failed => fails own ?_⟩
        exact congrArg _ (Option.some.inj failed)
      · rw [sent] at held
        rw [run, sent, log_fetch_ok sent, List.forall_mem_cons]
        obtain ⟨ends, exchanges⟩ := ih rows (later rows) held
        refine ⟨ends, ⟨has, fun own failed => ?_⟩, exchanges⟩
        cases failed
  | execute statement next ih =>
      obtain ⟨has, later⟩ := sends
      obtain ⟨held, fails⟩ := keeps.execute statement state has holds
      rcases sent : executor.execute statement state with ⟨error | count, after⟩
      · rw [sent] at held fails
        rw [run, sent, log_execute_error sent, List.forall_mem_singleton]
        refine ⟨held, has, fun own failed => fails own ?_⟩
        exact congrArg _ (Option.some.inj failed)
      · rw [sent] at held
        rw [run, sent, log_execute_ok sent, List.forall_mem_cons]
        obtain ⟨ends, exchanges⟩ := ih count (later count) held
        refine ⟨ends, ⟨has, fun own failed => ?_⟩, exchanges⟩
        cases failed

/-- Whatever the executor replies, the statements in the log have the property. -/
theorem Sends.log (sends : program.Sends property) (executor : Executor σ) (state : σ) :
    ∀ exchange ∈ program.log executor state, property exchange.statement := by
  have keeps : executor.Keeps property (fun _ => True) fun _ => True :=
    ⟨fun _ _ _ _ => ⟨trivial, fun _ _ => trivial⟩, fun _ _ _ _ => ⟨trivial, fun _ _ => trivial⟩⟩
  intro exchange member
  exact ((sends.kept keeps trivial).2 exchange member).1

/-- Where a run fails, the executor has failed, or the program itself on the rows of a reply. -/
theorem Sends.error_of_run {returns : List Row → α → Prop} {raises : List Row → Error → Prop}
    (sends : program.Sends property) {last : List Row}
    (ensures : program.Ensures returns raises last) {executor : Executor σ}
    {invariant : σ → Prop} {errors : Error → Prop}
    (keeps : executor.Keeps property invariant errors) {state : σ} (holds : invariant state)
    {error : Error} (failed : (program.run executor state).1 = .error error) :
    errors error ∨ ∃ rows, raises rows error := by
  have exchanges := (sends.kept keeps holds).2
  rcases (ensures.explained failed).exists_last with ⟨_, own⟩ | ⟨earlier, final, log, _, ends⟩
  · exact Or.inr ⟨last, own⟩
  · rcases ends with refused | ⟨_, own⟩
    · have member : final ∈ program.log executor state := log ▸ List.mem_concat_self
      exact Or.inl ((exchanges final member).2 error refused)
    · exact Or.inr ⟨final.rows, own⟩

end Sends

end Program

end EntryStore
