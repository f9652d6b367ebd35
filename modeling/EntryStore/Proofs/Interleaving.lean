import EntryStore.Program

/-!
# Programs that share a state

Several programs over one state take turns: at each turn one of them runs its next statement.
A schedule names the program of each turn, so that schedules are the ways in which the
statements of the programs can be interleaved.
-/

namespace EntryStore

variable {σ α β γ : Type}

/-- A sequence of three programs can be read from either side. -/
theorem Program.bind_assoc (program : Program α) (next : α → Program β) (last : β → Program γ) :
    (program.bind next).bind last = program.bind fun a => (next a).bind last := by
  induction program with
  | done result => rfl
  | fail error => rfl
  | fetch statement rest ih => exact congrArg (Program.fetch statement) (funext ih)
  | execute statement rest ih => exact congrArg (Program.execute statement) (funext ih)

/-- Whether a program has ended with a result. -/
def Program.isDone : Program α → Bool
  | .done _ => true
  | _ => false

/-- Whether a program has ended with an error. -/
def Program.isFailed : Program α → Bool
  | .fail _ => true
  | _ => false

/-- Runs the next statement of a program.  A program that has ended stays as it is. -/
def Program.advance (executor : Executor σ) : Program α → σ → Program α × σ
  | .done result, state => (.done result, state)
  | .fail error, state => (.fail error, state)
  | .fetch statement next, state =>
      match executor.fetch statement state with
      | (.ok rows, state) => (next rows, state)
      | (.error error, state) => (.fail error, state)
  | .execute statement next, state =>
      match executor.execute statement state with
      | (.ok count, state) => (next count, state)
      | (.error error, state) => (.fail error, state)

/-- Running a program goes on where its next statement has left it. -/
theorem Program.run_advance (executor : Executor σ) (program : Program α) (state : σ) :
    (program.advance executor state).1.run executor (program.advance executor state).2 =
      program.run executor state := by
  cases program with
  | done result => rfl
  | fail error => rfl
  | fetch statement next =>
      rw [advance, run]
      rcases executor.fetch statement state with ⟨_ | rows, after⟩ <;> rfl
  | execute statement next =>
      rw [advance, run]
      rcases executor.execute statement state with ⟨_ | count, after⟩ <;> rfl

/-- Programs and the state that they share. -/
structure Shared (σ α : Type) where
  programs : List (Program α)
  state : σ

namespace Shared

/-- Gives one of the programs a turn. -/
def turn (executor : Executor σ) (shared : Shared σ α) (index : Nat) : Shared σ α :=
  match shared.programs[index]? with
  | none => shared
  | some program =>
      let (program, state) := program.advance executor shared.state
      ⟨shared.programs.set index program, state⟩

/-- Gives turns in the order of a schedule. -/
def run (executor : Executor σ) (shared : Shared σ α) (schedule : List Nat) : Shared σ α :=
  schedule.foldl (turn executor) shared

end Shared

end EntryStore
