import EntryStore.Proofs.Sql.Meanings
import EntryStore.Proofs.Store.Refinement

/-!
# Texts that are refused

How patterns are understood may be limited, so that some texts cannot be looked for.  A call about
such a text fails and changes nothing, or does what it does without the limit: its first statement
alone looks at patterns.  A table of bindings therefore stays one through all calls.  Where a table
is empty no row is compared with any pattern, so that a refused text can be stored as an owner, but
is not found afterwards.
-/

namespace EntryStore

open Sql (Connection Database PatternMeaning Prepared Refines)
open Regex (Takes meaning?)

namespace Store

variable {mapping : Mapping}

/-! ## What calls send behind their first statement -/

section Calls

variable (maps : ∀ field, mapping.layout.Maps field)
include maps

theorem sendsLater_rows {α : Type} {property : Prepared → Prop} {query : Query} (asks : query.Asks)
    {next : List Row → Program α} (later : ∀ rows, (next rows).Sends property) :
    (((Store.mk mapping).rows (.ok query)).bind next).SendsLater property := by
  rw [rows_eq (Query.complete_of_maps maps asks)]
  exact later

theorem sendsLater_affected {property : Prepared → Prop} {query : Query} (asks : query.Asks) :
    ((Store.mk mapping).affected (.ok query)).SendsLater property := by
  rw [affected_eq (Query.complete_of_maps maps asks)]
  exact fun _ => trivial

variable (sound : mapping.Sound)
include sound

theorem inserts_setValue (owner key : String) (value : Value) :
    ((Store.mk mapping).setValue owner key value).SendsLater Prepared.Inserts := by
  let insertion : Query := .insert [⟨.owner, .text owner⟩, ⟨.key, .text key⟩, ⟨.value, value⟩]
  have complete : insertion.Complete mapping.layout :=
    Query.complete_of_maps maps (List.cons_ne_nil _ _)
  have inserted : ((Store.mk mapping).affected (.ok insertion)).Sends Prepared.Inserts := by
    rw [affected_eq complete]
    exact ⟨⟨_, _, Query.read?_shape sound trivial complete⟩, fun _ => trivial⟩
  have updated : (Query.act (.update [⟨.value, value⟩]) (pairFilter owner key)).Complete
      mapping.layout := Query.complete_of_maps maps (List.cons_ne_nil _ _)
  change (((Store.mk mapping).affected (.ok (.act (.update [⟨.value, value⟩])
    (pairFilter owner key)))).bind _).SendsLater _
  rw [affected_eq updated]
  intro count
  change (if count = 0 then
      (do discard ((Store.mk mapping).affected (.ok insertion)) : Program Unit)
    else pure ()).Sends _
  split
  · exact inserted.bind fun _ => trivial
  · trivial

/-- Behind its first statement a call sends insertions at most. -/
theorem inserts_perform (call : Call) :
    ((Store.mk mapping).perform call).SendsLater Prepared.Inserts := by
  have asks : ∀ {fields : List Field} {filter : Filter}, fields ≠ [] →
      (Query.act (.select fields) filter).Asks := id
  have removes : ∀ {filter : Filter},
      ((Store.mk mapping).affected (.ok (.act .delete filter))).SendsLater Prepared.Inserts :=
    sendsLater_affected maps trivial
  cases call with
  | ensureTable =>
      change (((Store.mk mapping).ensureTable).bind _).SendsLater _
      rw [Store.ensureTable, tableStatement_eq maps]
      exact fun _ => trivial
  | setString owner key text? =>
      cases text? with
      | none => exact (removes.finish fun _ => ()).finish fun _ => Answer.done
      | some text => exact (inserts_setValue maps sound owner key _).finish fun _ => Answer.done
  | setValue owner key value =>
      exact (inserts_setValue maps sound owner key value).finish fun _ => Answer.done
  | setObject owner key document =>
      exact (inserts_setValue maps sound owner key _).finish fun _ => Answer.done
  | setList owner key elements? =>
      cases elements? with
      | none => exact (removes.finish fun _ => ()).finish fun _ => Answer.done
      | some elements => exact (inserts_setValue maps sound owner key _).finish fun _ => Answer.done
  | getString owner key =>
      refine Program.SendsLater.finish ?_ Answer.text
      exact sendsLater_rows maps (asks (List.cons_ne_nil _ _)) fun _ => trivial
  | contains owner key =>
      refine Program.SendsLater.finish ?_ Answer.truth
      exact sendsLater_rows maps (asks (List.cons_ne_nil _ _)) fun _ => trivial
  | keys owner =>
      refine Program.SendsLater.finish ?_ Answer.keys
      exact sendsLater_rows maps (asks (List.cons_ne_nil _ _)) fun _ => trivial
  | delete owner key => exact removes.finish Answer.count
  | purge owner => exact removes.finish Answer.count
  | entries owner =>
      refine Program.SendsLater.finish ?_ Answer.entries
      unfold entries find
      rw [find_eq]
      refine sendsLater_rows maps (asks (List.cons_ne_nil _ _)) fun rows => ?_
      simp only [offsets_eq maps]
      exact Program.sends_ofExcept _

end Calls

/-! ## Tables of bindings -/

section Stored

variable {meaning : PatternMeaning} (refines : Refines meaning meaning?) (sound : mapping.Sound)
  (usable : mapping.Usable) (bindings : Bindings)
include refines sound usable

/-- Whatever it is about, a call leaves the table of some bindings. -/
theorem exists_stored_of_perform (call : Call) : ∃ answer, ∃ others : Bindings,
    ((Store.mk mapping).perform call).run (Connection.executor meaning)
      (stored mapping bindings.list) = (answer, stored mapping others.list) := by
  have ran := run_perform sound usable bindings Regex.takes_meaning? call
  rcases Program.run_or_refused refines (inserts_perform usable.maps sound call) ran with
    ⟨error, refused⟩ | same
  · exact ⟨.error error, bindings, refused⟩
  · exact ⟨_, _, same⟩

/-- Calls leave the table of some bindings to the calls behind them. -/
theorem exists_stored_of_answers (earlier : List Call) :
    ∃ answers others, answers.length = earlier.length ∧ ∀ later,
      (Store.mk mapping).answers (Connection.executor meaning) (earlier ++ later)
          (stored mapping bindings.list) =
        answers ++ (Store.mk mapping).answers (Connection.executor meaning) later
          (stored mapping (others : Bindings).list) := by
  induction earlier generalizing bindings with
  | nil => exact ⟨[], bindings, rfl, fun _ => rfl⟩
  | cons call earlier ih =>
      obtain ⟨answer, between, ran⟩ := exists_stored_of_perform refines sound usable bindings call
      obtain ⟨answers, others, length, behind⟩ := ih between
      refine ⟨answer :: answers, others, congrArg Nat.succ length, fun later => ?_⟩
      rw [List.cons_append, Store.answers, ran]
      exact congrArg (answer :: ·) (behind later)

end Stored

/-! ## Tables of any rows -/

/-- A value is stored, or nothing is changed. -/
theorem Holds.run_setValue_or_refused {meaning : PatternMeaning}
    (refines : Refines meaning meaning?) (sound : mapping.Sound) (usable : mapping.Usable)
    {rows : List Row} {connection : Connection}
    (holds : Holds mapping rows connection) (owner key : String) (value : Value) :
    (((Store.mk mapping).setValue owner key value).run (Connection.executor meaning) connection =
        (.ok (), Store.withRows mapping
          (mapping.layout.storeRows (freshTable mapping) owner key value.parameter rows)
          connection) ∨
      ∃ error, ((Store.mk mapping).setValue owner key value).run (Connection.executor meaning)
        connection = (.error error, connection)) ∧
    Holds mapping (mapping.layout.storeRows (freshTable mapping) owner key value.parameter rows)
      (Store.withRows mapping
        (mapping.layout.storeRows (freshTable mapping) owner key value.parameter rows)
        connection) := by
  obtain ⟨stored, held⟩ := holds.run_setValue sound usable (Regex.takes_meaning? owner)
    (Regex.takes_meaning? key) value
  refine ⟨?_, held⟩
  exact (Program.run_or_refused refines (inserts_setValue usable.maps sound owner key value)
    stored).symm

namespace Holds

variable {meaning : PatternMeaning} {rows : List Row} {connection : Connection}
variable (sound : mapping.Sound) (usable : mapping.Usable)
include sound usable

/-- In an empty table every value can be stored. -/
theorem run_setValue_of_nil (holds : Holds mapping [] connection) (owner key : String)
    (value : Value) :
    ((Store.mk mapping).setValue owner key value).run (Connection.executor meaning) connection =
      (.ok (), Store.withRows mapping
        [mapping.layout.bindingRow (freshTable mapping) ⟨owner, key, value.parameter⟩]
        connection) := by
  obtain ⟨database, rfl⟩ := holds.exists_database
  have asked : Query.Ready meaning mapping database { freshTable mapping with rows := [] }
      (.act (.update [⟨.value, value⟩]) (pairFilter owner key)) :=
    holds.ready sound usable (List.cons_ne_nil _ _) (linked_pairFilter owner key)
      fun _ member => absurd member List.not_mem_nil
  have updated := asked.execute_update fun assignment _ => plain_primaryOf usable assignment.field
  exact holds.run_setValue_of_absent sound usable ⟨_, affected_eq asked.complete, updated⟩

/-- With an owner that is refused, nothing is read off a table that has rows. -/
theorem run_getString_of_refused (holds : Holds mapping rows connection) (nonempty : rows ≠ [])
    {owner : String} (refused : meaning (Anchoring.full.anchor (Pattern.escape owner)) = none)
    (key : String) :
    ((Store.mk mapping).getString owner key).run (Connection.executor meaning) connection =
      (.error Sql.Refusal.malformedPattern.toFailure.toError, connection) := by
  let query : Query := .act (.select [.value]) (pairFilter owner key)
  have complete : query.Complete mapping.layout :=
    Query.complete_of_maps usable.maps (List.cons_ne_nil _ _)
  have projected : ∀ column ∈ [Field.value].flatMap mapping.layout.columnsOf,
      (freshTable mapping).Has column := by
    rw [List.flatMap_singleton]
    exact fun _ => has_column usable
  have resolved := @Layout.condition_terms mapping.layout { freshTable mapping with rows := rows }
    (pairFilter owner key) fun condition _ => (placed_freshTable usable).has condition.field
  have executed : connection.database.execute meaning (query.shape mapping.layout)
      (Prepared.of (query.shape mapping.layout) query.params).params = .error .malformedPattern :=
    Database.execute_select_of_refused holds.found nonempty projected resolved refused
  have reads : Sql.Statement.read? (Prepared.of (query.shape mapping.layout) query.params).sql =
      some (query.shape mapping.layout) :=
    Query.read?_shape sound (linked_pairFilter owner key) complete
  have asked : ((Store.mk mapping).rows (.ok query)).run (Connection.executor meaning) connection =
      (.error Sql.Refusal.malformedPattern.toFailure.toError, connection) := by
    rw [rows_eq complete, Program.run_rowsOf]
    simp only [Connection.executor, Connection.executorBy, Connection.send_eq holds.isOpen reads,
      executed]
    rfl
  change (((Store.mk mapping).rows (.ok query)).bind _).run _ _ = _
  rw [Program.run_bind, asked]

/-- In an empty table a value can be stored under an owner that is too long, and cannot be read. -/
theorem run_getString_of_long (holds : Holds mapping [] connection) {owner : String}
    (long : Regex.maxLiteral < owner.utf8ByteSize) (key : String) (value : Value) :
    ∃ after, ((Store.mk mapping).setValue owner key value).run
        (Connection.executor Regex.matcher?) connection = (.ok (), after) ∧
      ((Store.mk mapping).getString owner key).run (Connection.executor Regex.matcher?) after =
        (.error Sql.Refusal.malformedPattern.toFailure.toError, after) := by
  refine ⟨_, holds.run_setValue_of_nil sound usable owner key value, ?_⟩
  have held := holds.withRows (List.forall_mem_singleton.mpr
    (admissible_bindingRow usable ⟨owner, key, value.parameter⟩))
  exact held.run_getString_of_refused sound usable (List.cons_ne_nil _ _)
    (Regex.matcher?_of_long long) key

end Holds

/-- An owner that is too long to be looked for. -/
def longOwner : String := String.ofList (List.replicate 330000 'a')

theorem maxLiteral_lt_longOwner : Regex.maxLiteral < longOwner.utf8ByteSize := by
  have size : ∀ count, (String.ofList (List.replicate count 'a')).utf8ByteSize = count := by
    intro count
    induction count with
    | zero => rfl
    | succ count ih =>
        rw [List.replicate_succ, String.ofList_cons, String.utf8ByteSize_append, ih,
          String.utf8ByteSize_singleton]
        exact Nat.add_comm 1 count
  exact Nat.lt_of_lt_of_eq (by decide) (size 330000).symm

end Store

end EntryStore
