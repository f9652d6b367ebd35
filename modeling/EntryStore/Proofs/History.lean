import Mathlib.Data.List.Basic
import EntryStore.Proofs.Interleaving

/-!
# Histories of concurrent calls

Clients that share a state make calls one after the other, and the turns of a client run the
statements of its calls.  The history of a run records each call that has ended, with the turns in
which it began and ended.  A history is linearizable if its calls can be put into one order such
that no call comes before one that had ended when it began, and each answers what it would if
the calls were made one at a time in this order.
-/

namespace EntryStore

variable {σ κ α β S : Type}

/-- What a program that has ended returns. -/
def Program.outcome? : Program α → Option (Except Error α)
  | .done result => some (.ok result)
  | .fail error => some (.error error)
  | _ => none

/-- A program that sends no more than one statement. -/
def Program.IsSingle : Program α → Prop
  | .fetch _ next => ∀ rows, (next rows).outcome?.isSome = true
  | .execute _ next => ∀ count, (next count).outcome?.isSome = true
  | _ => True

theorem Program.run_of_outcome {program : Program α} {outcome : Except Error α}
    (ended : program.outcome? = some outcome) (executor : Executor σ) (state : σ) :
    program.run executor state = (outcome, state) := by
  cases program with
  | done result =>
      cases ended
      rfl
  | fail error =>
      cases ended
      rfl
  | fetch statement next => cases ended
  | execute statement next => cases ended

/-- A conversion of the result sends nothing more. -/
theorem Program.IsSingle.finish {program : Program α} (single : program.IsSingle)
    (finish : α → β) : (program.bind fun result => .done (finish result)).IsSingle := by
  have converted : ∀ rest : Program α, rest.outcome?.isSome = true →
      (rest.bind fun result => .done (finish result)).outcome?.isSome = true := by
    intro rest ended
    cases rest with
    | done result => rfl
    | fail error => rfl
    | fetch statement next => cases ended
    | execute statement next => cases ended
  cases program with
  | done result => trivial
  | fail error => trivial
  | fetch statement next => exact fun rows => converted _ (single rows)
  | execute statement next => exact fun count => converted _ (single count)

/-- A program of one statement ends in its first turn. -/
theorem Program.IsSingle.advance {program : Program α} (single : program.IsSingle)
    {executor : Executor σ} {state after : σ} {outcome : Except Error α}
    (ran : program.run executor state = (outcome, after)) :
    ∃ rest, program.advance executor state = (rest, after) ∧ rest.outcome? = some outcome := by
  have ended : (program.advance executor state).1.outcome?.isSome = true := by
    cases program with
    | done result => rfl
    | fail error => rfl
    | fetch statement next =>
        rw [Program.advance]
        rcases executor.fetch statement state with ⟨_ | rows, after⟩
        · rfl
        · exact single rows
    | execute statement next =>
        rw [Program.advance]
        rcases executor.execute statement state with ⟨_ | count, after⟩
        · rfl
        · exact single count
  obtain ⟨own, same⟩ := Option.isSome_iff_exists.mp ended
  have whole := Program.run_advance executor program state
  rw [Program.run_of_outcome same, ran, Prod.mk.injEq] at whole
  obtain ⟨rfl, rfl⟩ := whole
  exact ⟨_, rfl, same⟩

/-- A call that has ended: the client that made it, the turns of its first and its last statement,
and what it has returned. -/
structure Record (κ α : Type) where
  client : Nat
  call : κ
  began : Nat
  ended : Nat
  outcome : Except Error α
  deriving DecidableEq

/-- A call that has begun: the turn of its first statement, and the program that is left. -/
structure Running (κ α : Type) where
  call : κ
  began : Nat
  program : Program α

/-- A client with the call that it has begun and those that it will make. -/
structure Caller (κ α : Type) where
  running : Option (Running κ α)
  waiting : List κ

/-- Clients, the state that they share, the number of turns so far, and the calls that have
ended. -/
structure Traffic (σ κ α : Type) where
  callers : List (Caller κ α)
  state : σ
  clock : Nat
  history : List (Record κ α)

namespace Caller

/-- The call that a turn of a client runs on, which may begin with the turn, and the calls after
it. -/
def current (perform : κ → Program α) (clock : Nat) : Caller κ α → Option (Running κ α × List κ)
  | ⟨some running, waiting⟩ => some (running, waiting)
  | ⟨none, call :: waiting⟩ => some (⟨call, clock, perform call⟩, waiting)
  | ⟨none, []⟩ => none

/-- The calls of a client that have not ended. -/
def calls (caller : Caller κ α) : List κ :=
  (caller.running.map Running.call).toList ++ caller.waiting

theorem calls_of_current {perform : κ → Program α} {clock : Nat} {caller : Caller κ α}
    {running : Running κ α} {waiting : List κ}
    (now : caller.current perform clock = some (running, waiting)) :
    caller.calls = running.call :: waiting := by
  obtain ⟨_ | running, _ | ⟨call, waiting⟩⟩ := caller <;> cases now <;> rfl

/-- The current call runs already, or begins now. -/
theorem running_of_current {perform : κ → Program α} {clock : Nat} {caller : Caller κ α}
    {running : Running κ α} {waiting : List κ}
    (now : caller.current perform clock = some (running, waiting)) :
    caller.running = some running ∨ ∃ call, running = ⟨call, clock, perform call⟩ := by
  obtain ⟨_ | running, _ | ⟨call, waiting⟩⟩ := caller
  · cases now
  · cases now
    exact Or.inr ⟨call, rfl⟩
  · cases now
    exact Or.inl rfl
  · cases now
    exact Or.inl rfl

end Caller

namespace Traffic

/-- Clients with calls to make, before the first turn. -/
def start (requests : List (List κ)) (state : σ) : Traffic σ κ α :=
  ⟨requests.map fun calls => ⟨none, calls⟩, state, 0, []⟩

/-- The calls that run. -/
def running (traffic : Traffic σ κ α) : List (Running κ α) :=
  traffic.callers.filterMap Caller.running

/-- The calls of a client: those that have ended, in the order in which they did, and those that
have not. -/
def callsOf (traffic : Traffic σ κ α) (index : Nat) : List κ :=
  (traffic.history.filter (·.client == index)).map Record.call ++
    (traffic.callers[index]?.map Caller.calls).getD []

variable (executor : Executor σ) (perform : κ → Program α)

/-- Gives one of the clients a turn. -/
def turn (traffic : Traffic σ κ α) (index : Nat) : Traffic σ κ α :=
  match traffic.callers[index]?.bind (Caller.current perform traffic.clock) with
  | none => { traffic with clock := traffic.clock + 1 }
  | some (running, waiting) =>
      let (program, state) := running.program.advance executor traffic.state
      match program.outcome? with
      | none =>
          ⟨traffic.callers.set index ⟨some { running with program := program }, waiting⟩, state,
            traffic.clock + 1, traffic.history⟩
      | some outcome =>
          ⟨traffic.callers.set index ⟨none, waiting⟩, state, traffic.clock + 1,
            traffic.history ++
              [⟨index, running.call, running.began, traffic.clock, outcome⟩]⟩

/-- Gives turns in the order of a schedule. -/
def run (traffic : Traffic σ κ α) (schedule : List Nat) : Traffic σ κ α :=
  schedule.foldl (turn executor perform) traffic

section Turn

variable {executor : Executor σ} {perform : κ → Program α} {traffic : Traffic σ κ α}
variable {index : Nat} {running : Running κ α} {waiting : List κ} {program : Program α}
variable {after : σ}

theorem turn_idle
    (idle : traffic.callers[index]?.bind (Caller.current perform traffic.clock) = none) :
    traffic.turn executor perform index = { traffic with clock := traffic.clock + 1 } := by
  rw [turn, idle]

/-- A turn in which a call does not end. -/
theorem turn_on
    (now : traffic.callers[index]?.bind (Caller.current perform traffic.clock) =
      some (running, waiting))
    (advanced : running.program.advance executor traffic.state = (program, after))
    (goesOn : program.outcome? = none) :
    traffic.turn executor perform index =
      ⟨traffic.callers.set index ⟨some { running with program := program }, waiting⟩, after,
        traffic.clock + 1, traffic.history⟩ := by
  rw [turn, now]
  simp only [advanced, goesOn]

/-- A turn in which a call ends. -/
theorem turn_end
    (now : traffic.callers[index]?.bind (Caller.current perform traffic.clock) =
      some (running, waiting))
    (advanced : running.program.advance executor traffic.state = (program, after))
    {outcome : Except Error α} (ends : program.outcome? = some outcome) :
    traffic.turn executor perform index =
      ⟨traffic.callers.set index ⟨none, waiting⟩, after, traffic.clock + 1,
        traffic.history ++
          [⟨index, running.call, running.began, traffic.clock, outcome⟩]⟩ := by
  rw [turn, now]
  simp only [advanced, ends]

end Turn

/-! ## No call is lost -/

section Accounts

variable {executor perform}

/-- A call that a client has begun runs on or has ended after a turn. -/
theorem callsOf_turn (traffic : Traffic σ κ α) (index other : Nat) :
    (traffic.turn executor perform index).callsOf other = traffic.callsOf other := by
  cases now : traffic.callers[index]?.bind (Caller.current perform traffic.clock) with
  | none =>
      rw [turn_idle now]
      rfl
  | some entry =>
      obtain ⟨running, waiting⟩ := entry
      obtain ⟨caller, found, current⟩ := Option.bind_eq_some_iff.mp now
      have calls : caller.calls = running.call :: waiting := Caller.calls_of_current current
      obtain ⟨inside, _⟩ := List.getElem?_eq_some_iff.mp found
      rcases advanced : running.program.advance executor traffic.state with ⟨program, after⟩
      cases ends : program.outcome? with
      | none =>
          rw [turn_on now advanced ends]
          by_cases same : index = other
          · subst same
            simp only [callsOf, found, List.getElem?_set_self inside, Option.map_some, calls]
            rfl
          · simp [callsOf, List.getElem?_set_ne same]
      | some outcome =>
          rw [turn_end now advanced ends]
          have left : (Caller.mk none waiting : Caller κ α).calls = waiting := rfl
          by_cases same : index = other
          · subst same
            simp [callsOf, found, List.getElem?_set_self inside, calls, left]
          · simp [callsOf, List.getElem?_set_ne same, same]

theorem callsOf_run (traffic : Traffic σ κ α) (schedule : List Nat) (other : Nat) :
    (traffic.run executor perform schedule).callsOf other = traffic.callsOf other := by
  induction schedule generalizing traffic with
  | nil => rfl
  | cons index schedule ih => exact (ih _).trans (callsOf_turn traffic index other)

theorem callsOf_start (requests : List (List κ)) (state : σ) (index : Nat) :
    (start requests state : Traffic σ κ α).callsOf index = requests[index]?.getD [] := by
  cases found : requests[index]? with
  | none => simp [callsOf, start, found]
  | some calls => simp [callsOf, start, found, Caller.calls]

end Accounts

/-- After a turn, no call runs but those that ran before and the one of the turn. -/
theorem mem_running_set {callers : List (Caller κ α)} {index : Nat} {caller : Caller κ α}
    {running : Running κ α}
    (member : running ∈ (callers.set index caller).filterMap Caller.running) :
    running ∈ callers.filterMap Caller.running ∨ caller.running = some running := by
  obtain ⟨other, otherMember, runs⟩ := List.mem_filterMap.mp member
  rcases List.mem_or_eq_of_mem_set otherMember with earlier | rfl
  · exact Or.inl (List.mem_filterMap.mpr ⟨other, earlier, runs⟩)
  · exact Or.inr runs

/-- After a turn in which a call ends, no call runs but those that ran before. -/
theorem running_set_subset (callers : List (Caller κ α)) (index : Nat) (waiting : List κ) :
    (callers.set index ⟨none, waiting⟩).filterMap Caller.running ⊆
      callers.filterMap Caller.running :=
  fun _ member => (mem_running_set member).resolve_right nofun

end Traffic

/-! ## Linearizable histories -/

/-- Calls answer what a machine answers that is given them in this order, and take it from one
state to another. -/
inductive Replays (machine : S → κ → α × S) : S → List (Record κ α) → S → Prop where
  | nil {state : S} : Replays machine state [] state
  | cons {state final : S} {record : Record κ α} {records : List (Record κ α)} :
      record.outcome = .ok (machine state record.call).1 →
      Replays machine (machine state record.call).2 records final →
      Replays machine state (record :: records) final

/-- No call of an order comes before one that had ended when it began. -/
def Timely (order : List (Record κ α)) : Prop :=
  order.Pairwise fun earlier later => ¬later.ended < earlier.began

/-- An order of the calls of a history that respects time, and in which they answer what a
machine answers from a given state. -/
structure Linearizes (machine : S → κ → α × S) (start : S)
    (history order : List (Record κ α)) : Prop where
  complete : order.Perm history
  timely : Timely order
  replays : ∃ final, Replays machine start order final

namespace Replays

variable {machine : S → κ → α × S} {start between final : S} {record : Record κ α}
variable {first second : List (Record κ α)}

theorem append (front : Replays machine start first between)
    (back : Replays machine between second final) :
    Replays machine start (first ++ second) final := by
  induction front with
  | nil => exact back
  | cons answered _ ih => exact .cons answered (ih back)

theorem split (whole : Replays machine start (first ++ second) final) :
    ∃ between, Replays machine start first between ∧ Replays machine between second final := by
  induction first generalizing start with
  | nil => exact ⟨start, .nil, whole⟩
  | cons record first ih =>
      cases whole with
      | cons answered rest =>
          obtain ⟨between, front, back⟩ := ih rest
          exact ⟨between, .cons answered front, back⟩

theorem singleton (answered : record.outcome = .ok (machine start record.call).1) :
    Replays machine start [record] (machine start record.call).2 := .cons answered .nil

end Replays

/-- A call can come in between if it ends after all before it have begun, and has begun before any
behind it has ended. -/
theorem Timely.insert {front back : List (Record κ α)} (timely : Timely (front ++ back))
    {record : Record κ α} (before : ∀ earlier ∈ front, earlier.began ≤ record.ended)
    (behind : ∀ later ∈ back, record.began ≤ later.ended) :
    Timely (front ++ record :: back) := by
  rw [Timely, List.pairwise_append] at timely ⊢
  obtain ⟨early, late, apart⟩ := timely
  refine ⟨early, List.pairwise_cons.mpr ⟨fun later member => ?_, late⟩, ?_⟩
  · exact Nat.not_lt.mpr (behind later member)
  · intro earlier member later laterMember
    rcases List.mem_cons.mp laterMember with rfl | laterMember
    · exact Nat.not_lt.mpr (before earlier member)
    · exact apart earlier member later laterMember

/-- A call that ends after all others have begun can come last. -/
theorem Timely.append {order : List (Record κ α)} (timely : Timely order) {record : Record κ α}
    (last : ∀ earlier ∈ order, earlier.began ≤ record.ended) : Timely (order ++ [record]) := by
  rw [← List.append_nil order] at timely
  exact timely.insert last (List.forall_mem_nil _)

end EntryStore
