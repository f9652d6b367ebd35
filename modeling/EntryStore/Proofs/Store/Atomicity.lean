import EntryStore.Proofs.Exchange
import EntryStore.Proofs.Sql.Edits
import EntryStore.Proofs.Store.Refinement

/-!
# Storing a value is all or nothing

A value is stored by one statement or by two, and no transaction holds these together.  The second
one is sent only where the first has changed nothing.  Over an executor that is faithful to the
rows of the table, a request that fails has therefore changed nothing, whichever of its statements
has failed.
-/

namespace EntryStore

open Sql (Prepared)

/-- What a call stores, and for which owner and key, if it stores something. -/
def Call.stores? : Call → Option (String × String × Value)
  | .setValue owner key value => some (owner, key, value)
  | .setString owner key (some text) => some (owner, key, .text text)
  | .setObject owner key document => some (owner, key, .json document)
  | .setList owner key (some elements) => some (owner, key, .json (.array elements))
  | _ => none

namespace Layout

/-- The statement that gives the rows of an owner and a key another value. -/
def updateStatement (layout : Layout) (owner key : String) (value : Value) : Prepared :=
  .of (.update layout.table [layout.primaryOf .value]
      [⟨.init, layout.primaryOf .owner⟩, ⟨.and, layout.primaryOf .key⟩])
    [value.parameter, "^" ++ Pattern.escape owner ++ "$", "^" ++ Pattern.escape key ++ "$"]

/-- The statement that inserts a row. -/
def insertStatement (layout : Layout) (owner key : String) (value : Value) : Prepared :=
  .of (.insert layout.table
      [layout.primaryOf .owner, layout.primaryOf .key, layout.primaryOf .value])
    [owner, key, value.parameter]

end Layout

/-- What is exchanged for an update, and for an insertion where the update has found no row; with
the last reply. -/
inductive Upserts (update insert : Prepared) : List Exchange → Except Error Nat → Prop where
  | updated {reply : Except Error Nat} (decisive : reply ≠ .ok 0) :
      Upserts update insert [.executed update reply] reply
  | inserted {reply : Except Error Nat} :
      Upserts update insert [.executed update (.ok 0), .executed insert reply] reply

/-- The program of an update, and of an insertion where the update has found no row. -/
def Program.upsert (update insert : Prepared) : Program Answer :=
  .execute update fun updated =>
    if updated = 0 then .execute insert fun _ => .done .done else .done .done

section Upsert

variable {σ : Type} {executor : Executor σ} {update insert : Prepared} {state : σ}

/-- The last reply decides whether an upsert succeeds. -/
theorem Program.log_upsert (executor : Executor σ) (update insert : Prepared) (state : σ) :
    ∃ reply, Upserts update insert ((Program.upsert update insert).log executor state) reply ∧
      ((Program.upsert update insert).run executor state).1 = reply.map fun _ => .done := by
  unfold upsert
  rcases sent : executor.execute update state with ⟨error | count, between⟩
  · rw [log_execute_error sent, run, sent]
    refine ⟨.error error, .updated ?_, rfl⟩
    intro same
    cases same
  · rw [log_execute_ok sent, run, sent]
    by_cases none : count = 0
    · subst none
      rcases again : executor.execute insert between with ⟨error | count, after⟩
      · simp only [if_true, log_execute_error again, run, again]
        exact ⟨.error error, .inserted, rfl⟩
      · simp only [if_true, log_execute_ok again, run, again]
        exact ⟨.ok count, .inserted, rfl⟩
    · simp only [if_neg none]
      refine ⟨.ok count, .updated ?_, rfl⟩
      intro same
      exact none (Except.ok.inj same)

/-- An upsert that fails over a faithful executor has changed no row. -/
theorem Program.run_upsert_failed {contents : σ → List Row}
    (faithful : executor.Faithful contents) {error : Error}
    (failed : ((Program.upsert update insert).run executor state).1 = .error error) :
    contents ((Program.upsert update insert).run executor state).2 = contents state := by
  unfold upsert at failed ⊢
  have refused := faithful.failing update state
  have counted := faithful.counted update state
  rw [run] at failed ⊢
  rcases sent : executor.execute update state with ⟨own | count, between⟩
  · rw [sent] at refused
    exact refused own rfl
  · rw [sent] at failed counted
    by_cases none : count = 0
    · subst none
      have kept : contents between = contents state := (counted 0 rfl).eq_of_zero
      have refused := faithful.failing insert between
      simp only [if_true, run] at failed ⊢
      rcases again : executor.execute insert between with ⟨own | count, after⟩
      · rw [again] at refused
        exact (refused own rfl).trans kept
      · rw [again] at failed
        cases failed
    · simp only [if_neg none] at failed
      cases failed

end Upsert

namespace Store

/-- A call that stores something is an upsert. -/
theorem perform_eq_upsert {mapping : Mapping} (maps : ∀ field, mapping.layout.Maps field)
    {call : Call} {owner key : String} {value : Value}
    (stores : call.stores? = some (owner, key, value)) :
    (Store.mk mapping).perform call =
      .upsert (mapping.layout.updateStatement owner key value)
        (mapping.layout.insertStatement owner key value) := by
  have updated : (Store.mk mapping).affected (updateQuery owner key value) =
      .countOf (mapping.layout.updateStatement owner key value) :=
    affected_eq (Query.complete_of_maps maps (List.cons_ne_nil _ _))
  have inserted : (Store.mk mapping).affected (insertQuery owner key value) =
      .countOf (mapping.layout.insertStatement owner key value) :=
    affected_eq (Query.complete_of_maps maps (List.cons_ne_nil _ _))
  have stored : (((Store.mk mapping).setValue owner key value).bind fun _ => .done Answer.done) =
      .upsert (mapping.layout.updateStatement owner key value)
        (mapping.layout.insertStatement owner key value) := by
    unfold setValue
    rw [updated, inserted]
    refine congrArg (Program.execute _) (funext fun count => ?_)
    by_cases none : count = 0
    · subst none
      rfl
    · simp only [Program.done_bind, if_neg none]
      rfl
  cases call with
  | setValue owner key value =>
      cases stores
      exact stored
  | setString owner key text? =>
      cases text? with
      | none => cases stores
      | some text =>
          cases stores
          exact stored
  | setObject owner key document =>
      cases stores
      exact stored
  | setList owner key elements? =>
      cases elements? with
      | none => cases stores
      | some elements =>
          cases stores
          exact stored
  | _ => cases stores

/-- A call that stores a value sends the update, then the insertion exactly where the update has
found no row, and nothing else; the last reply is its result.  Over an executor that is faithful
to some rows, it leaves these as they were if it fails. -/
theorem failed_call_changes_nothing {mapping : Mapping} {store : Store}
    (made : ofMapping mapping = .ok store) {call : Call} {owner key : String} {value : Value}
    (stores : call.stores? = some (owner, key, value)) {σ : Type} {executor : Executor σ}
    {contents : σ → List Row} (faithful : executor.Faithful contents) (state : σ) :
    (∃ reply,
      Upserts (mapping.layout.updateStatement owner key value)
        (mapping.layout.insertStatement owner key value)
        ((store.perform call).log executor state) reply ∧
      ((store.perform call).run executor state).1 = reply.map fun _ => .done) ∧
    ∀ error, ((store.perform call).run executor state).1 = .error error →
      contents ((store.perform call).run executor state).2 = contents state := by
  obtain ⟨maps, rfl⟩ := (ofMapping_yields mapping).of_ok made
  rw [perform_eq_upsert maps stores]
  constructor
  · exact Program.log_upsert executor _ _ state
  · intro error failed
    exact Program.run_upsert_failed faithful failed

/-- In this table the type is required, so that the insertion fails. -/
theorem failed_call_changes_nothing_sample :
    let table : Sql.Table :=
      ⟨"test", [⟨"uuid", true⟩, ⟨"identifier", true⟩, ⟨"value", true⟩, ⟨"type", true⟩],
        [[some "u", some "k", some "1", some "t"]]⟩
    let run := ((Store.mk Mapping.sample).perform (.setString "u" "new" (some "2"))).run
      (Sql.Table.executor Regex.meaning?) table
    (∃ error, run.1 = .error error) ∧ run.2.rows = table.rows := by
  intro table run
  have made : ofMapping Mapping.sample = .ok (Store.mk Mapping.sample) := rfl
  have failed : run.1 =
      .error (Sql.Refusal.missingCell "test" "type").toFailure.toError := by
    decide +kernel
  have stores : (Call.setString "u" "new" (some "2")).stores? = some ("u", "new", .text "2") := rfl
  have unchanged :=
    (failed_call_changes_nothing made stores (Sql.Table.faithful_executor Regex.meaning?) table).2
  exact ⟨⟨_, failed⟩, unchanged _ failed⟩

end Store

end EntryStore
