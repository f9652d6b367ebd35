import EntryStore.Sql.Statement

/-!
# Programs over a database

A request to the store is a program: a tree of statements, each followed by what is done
with the answer.  The program does not say who runs the statements.  An executor does, over
a state of its own, and the first statement that fails ends the program with its error.
-/

namespace EntryStore

/-- The cells of a row of a result; `none` stands for NULL. -/
abbrev Row := List (Option String)

/-- A program with a result in `α`. -/
inductive Program (α : Type) where
  | done (result : α)
  | fail (error : Error)
  /-- asks for the rows of a statement -/
  | fetch (statement : Sql.Prepared) (next : List Row → Program α)
  /-- runs a statement that changes rows and asks for their number -/
  | execute (statement : Sql.Prepared) (next : Nat → Program α)

/-- Runs single statements over a state. -/
structure Executor (σ : Type) where
  fetch : Sql.Prepared → σ → Except Error (List Row) × σ
  execute : Sql.Prepared → σ → Except Error Nat × σ

namespace Program

variable {α β : Type}

/-- Continues with the result of a program. -/
def bind (program : Program α) (next : α → Program β) : Program β :=
  match program with
  | .done result => next result
  | .fail error => .fail error
  | .fetch statement rest => .fetch statement fun rows => (rest rows).bind next
  | .execute statement rest => .execute statement fun count => (rest count).bind next

instance : Monad Program where
  pure := .done
  bind := bind

/-- The program that sends nothing and has a given outcome. -/
def ofExcept : Except Error α → Program α
  | .ok result => .done result
  | .error error => .fail error

/-- Sends a statement and returns its rows. -/
def rowsOf (statement : Sql.Prepared) : Program (List Row) := .fetch statement .done

/-- Sends a statement and returns the number of rows that it changed. -/
def countOf (statement : Sql.Prepared) : Program Nat := .execute statement .done

/-- Runs a program. -/
def run {σ : Type} (executor : Executor σ) : Program α → σ → Except Error α × σ
  | .done result, state => (.ok result, state)
  | .fail error, state => (.error error, state)
  | .fetch statement next, state =>
      match executor.fetch statement state with
      | (.ok rows, state) => (next rows).run executor state
      | (.error error, state) => (.error error, state)
  | .execute statement next, state =>
      match executor.execute statement state with
      | (.ok count, state) => (next count).run executor state
      | (.error error, state) => (.error error, state)

@[simp] theorem done_bind (result : α) (next : α → Program β) :
    (Program.done result).bind next = next result := rfl

@[simp] theorem fail_bind (error : Error) (next : α → Program β) :
    (Program.fail error : Program α).bind next = .fail error := rfl

theorem run_rowsOf {σ : Type} (executor : Executor σ) (statement : Sql.Prepared) (state : σ) :
    (rowsOf statement).run executor state = executor.fetch statement state := by
  simp only [rowsOf, run]
  rcases executor.fetch statement state with ⟨_ | rows, after⟩ <;> rfl

theorem run_countOf {σ : Type} (executor : Executor σ) (statement : Sql.Prepared) (state : σ) :
    (countOf statement).run executor state = executor.execute statement state := by
  simp only [countOf, run]
  rcases executor.execute statement state with ⟨_ | count, after⟩ <;> rfl

theorem run_ofExcept {σ : Type} (executor : Executor σ) (outcome : Except Error α) (state : σ) :
    (ofExcept outcome).run executor state = (outcome, state) := by
  cases outcome <;> rfl

/-- Running a sequence runs its parts one after the other. -/
theorem run_bind {σ : Type} (executor : Executor σ) (program : Program α) (next : α → Program β)
    (state : σ) :
    (program.bind next).run executor state =
      match program.run executor state with
      | (.ok result, state) => (next result).run executor state
      | (.error error, state) => (.error error, state) := by
  induction program generalizing state with
  | done result => rfl
  | fail error => rfl
  | fetch statement rest ih =>
      simp only [bind, run]
      rcases executor.fetch statement state with ⟨_ | rows, after⟩
      · rfl
      · exact ih rows after
  | execute statement rest ih =>
      simp only [bind, run]
      rcases executor.execute statement state with ⟨_ | count, after⟩
      · rfl
      · exact ih count after

end Program

/-- An answer prepared for one statement. -/
inductive Reply where
  | rows (rows : List Row)
  | affected (count : Nat)
  | failure (error : Error)
  deriving Repr

/-- How a statement was sent, and the statement. -/
inductive Sent where
  | fetched (statement : Sql.Prepared)
  | executed (statement : Sql.Prepared)
  deriving Repr

/-- Prepared answers that are still to be given, and the statements sent so far. -/
structure Transcript where
  replies : List Reply
  sent : List Sent

namespace Transcript

/-- A transcript in which nothing has been sent. -/
def ofReplies (replies : List Reply) : Transcript := ⟨replies, []⟩

/-- The error where no answer of the right sort is left. -/
def noReply : Error := .backend "no reply"

/-- Records a statement and takes the next answer. -/
def next (transcript : Transcript) (sent : Sent) : Option Reply × Transcript :=
  (transcript.replies.head?, ⟨transcript.replies.tail, transcript.sent ++ [sent]⟩)

/-- The executor that records statements and gives the prepared answers in order. -/
def executor : Executor Transcript where
  fetch := fun statement transcript =>
    match transcript.next (.fetched statement) with
    | (some (.rows rows), after) => (.ok rows, after)
    | (some (.failure error), after) => (.error error, after)
    | (_, after) => (.error noReply, after)
  execute := fun statement transcript =>
    match transcript.next (.executed statement) with
    | (some (.affected count), after) => (.ok count, after)
    | (some (.failure error), after) => (.error error, after)
    | (_, after) => (.error noReply, after)

end Transcript

end EntryStore
