import EntryStore.Proofs.Sql.Refusals
import EntryStore.Proofs.Store.Atomicity
import EntryStore.Proofs.Store.Definitions
import EntryStore.Proofs.Store.Errors

/-!
# What a store sends fits its table

The table of a store is defined by all columns of its mapping, and the rows that the store inserts
have a text for the primary ones.  Both fit together, also where columns serve several fields:
every statement that a call sends keeps within the definitions of the table.  A call on a table
that the store has created can thus meet no column that is unknown, and no required one without a
text.
-/

namespace EntryStore

open Sql (ColumnDefinition Connection Database PatternMeaning Prepared Refusal Statement Table)
open Identifier (NormalForm)
open Regex (meaning?)

namespace Query

variable {mapping : Mapping} {query : Query}

/-- A query as a store makes it: it asks for something, its conditions are linked, and where it
inserts it assigns every field. -/
structure Requested (query : Query) : Prop where
  asks : query.Asks
  linked : Linked query.conditions
  assigns : ∀ assignments, query = .insert assignments →
    ∀ field, ∃ assignment ∈ assignments, assignment.field = field

theorem requested_act {action : Action} {filter : Filter} (asks : (Query.act action filter).Asks)
    (linked : Linked filter.conditions) : (Query.act action filter).Requested :=
  ⟨asks, linked, fun _ inserts => nomatch inserts⟩

theorem requested_select (field : Field) (fields : List Field) {filter : Filter}
    (linked : Linked filter.conditions) :
    (Query.act (.select (field :: fields)) filter).Requested :=
  requested_act (List.cons_ne_nil field fields) linked

theorem requested_insert (owner key : String) (value : Value) :
    (Query.insert [⟨.owner, .text owner⟩, ⟨.key, .text key⟩, ⟨.value, value⟩]).Requested := by
  refine ⟨List.cons_ne_nil _ _, trivial, fun assignments inserts field => ?_⟩
  cases inserts
  cases field <;> simp

/-- The statement of a query speaks of columns of fields. -/
theorem exists_field_of_mentions {layout : Layout} (complete : query.Complete layout)
    {column : String} (member : column ∈ (query.shape layout).mentions) :
    ∃ field, column ∈ layout.columnsOf field := by
  obtain ⟨_, mapped⟩ := complete
  have primary : ∀ field ∈ query.mentioned, layout.primaryOf field = column →
      ∃ field, column ∈ layout.columnsOf field := by
    intro field mentioned same
    exact ⟨field, same ▸ Layout.primaryOf_mem_columnsOf (mapped field mentioned)⟩
  have compared : column ∈ (layout.terms query.conditions).map (·.column) →
      ∃ field, column ∈ layout.columnsOf field := by
    intro member
    rw [Layout.terms, List.map_map] at member
    obtain ⟨condition, conditionMember, same⟩ := List.mem_map.mp member
    exact primary _ (mem_mentioned_of_mem_conditions conditionMember) same
  have assigned : (column ∈ query.assignments.map fun assignment =>
      layout.primaryOf assignment.field) → ∃ field, column ∈ layout.columnsOf field := by
    intro member
    obtain ⟨assignment, assignmentMember, same⟩ := List.mem_map.mp member
    exact primary _ (mem_mentioned_of_mem_assignments assignmentMember) same
  cases query with
  | act action filter =>
      cases action with
      | select fields =>
          rcases List.mem_append.mp member with shown | member
          · obtain ⟨field, _, columnMember⟩ := List.mem_flatMap.mp shown
            exact ⟨field, columnMember⟩
          · exact compared member
      | update assignments => exact (List.mem_append.mp member).elim assigned compared
      | delete => exact compared member
  | insert assignments => exact assigned member

end Query

namespace Store

/-- A statement that is about the table of a mapping and keeps within its definitions. -/
def Sendable (mapping : Mapping) : Prepared → Prop :=
  Prepared.Within mapping.table (freshTable mapping).columns

section Sendable

variable {mapping : Mapping} (maps : ∀ field, mapping.layout.Maps field)
include maps

/-- The statement of a requested query keeps within the definitions of the table. -/
theorem within_shape {query : Query} (requested : query.Requested) :
    (query.shape mapping.layout).Within (freshTable mapping).columns query.params where
  declared := by
    intro column member
    obtain ⟨field, columnMember⟩ :=
      Query.exists_field_of_mentions (Query.complete_of_maps maps requested.asks) member
    exact exists_definition columnMember
  filled := by
    intro name columns inserts definition member required
    obtain ⟨field, primary⟩ := exists_primaryOf_of_required member required
    cases query with
    | act action filter => cases action <;> cases inserts
    | insert assignments =>
        cases inserts
        obtain ⟨assignment, assignmentMember, rfl⟩ := requested.assigns assignments rfl field
        obtain ⟨position, found⟩ := List.mem_iff_getElem?.mp assignmentMember
        have params : Query.params (.insert assignments) =
            assignments.map (·.value.parameter) := List.append_nil _
        refine ⟨position, assignment.value.parameter, ?_, ?_⟩
        · rw [List.getElem?_map, found, Option.map_some, primary]
        · rw [params, List.getElem?_map, found, Option.map_some]

variable (sound : mapping.Sound)
include sound

theorem sendable_shape {query : Query} (requested : query.Requested) :
    Sendable mapping (.of (query.shape mapping.layout) query.params) := by
  refine ⟨_, Query.read?_shape sound requested.linked
    (Query.complete_of_maps maps requested.asks), ?_, within_shape maps requested⟩
  rcases query with ⟨_ | _ | _, filter⟩ | assignments <;> rfl

theorem sendable_create :
    Sendable mapping (.of (.create mapping.table (freshTable mapping).columns) []) := by
  refine ⟨_, read?_create maps sound, rfl, ?_, ?_⟩
  · intro column member
    exact List.mem_map.mp member
  · intro name columns inserts
    cases inserts

/-! ## Calls -/

theorem sends_rows {α : Type} {query : Query} (requested : query.Requested)
    {next : List Row → Program α} (later : ∀ rows, (next rows).Sends (Sendable mapping)) :
    (((Store.mk mapping).rows (.ok query)).bind next).Sends (Sendable mapping) := by
  rw [rows_eq (Query.complete_of_maps maps requested.asks)]
  exact ⟨sendable_shape maps sound requested, later⟩

theorem sends_affected {query : Query} (requested : query.Requested) :
    ((Store.mk mapping).affected (.ok query)).Sends (Sendable mapping) := by
  rw [affected_eq (Query.complete_of_maps maps requested.asks)]
  exact ⟨sendable_shape maps sound requested, fun _ => trivial⟩

theorem sends_getString (owner key : String) :
    ((Store.mk mapping).getString owner key).Sends (Sendable mapping) := by
  apply sends_rows maps sound (Query.requested_select _ _ (linked_pairFilter owner key))
  intro rows
  trivial

theorem sends_delete (owner key : String) :
    ((Store.mk mapping).delete owner key).Sends (Sendable mapping) := by
  apply sends_affected maps sound
  exact Query.requested_act trivial (linked_pairFilter owner key)

theorem sends_setValue (owner key : String) (value : Value) :
    ((Store.mk mapping).setValue owner key value).Sends (Sendable mapping) := by
  apply Program.Sends.bind
  · apply sends_affected maps sound
    apply Query.requested_act
    · exact List.cons_ne_nil _ _
    · exact (linked_pairFilter owner key)
  · intro updated
    split
    · apply Program.Sends.bind
      · exact sends_affected maps sound (Query.requested_insert owner key value)
      · intro inserted
        trivial
    · trivial

theorem sends_setList (owner key : String) (elements? : Option (List Json)) :
    ((Store.mk mapping).setList owner key elements?).Sends (Sendable mapping) := by
  cases elements? with
  | none => exact (sends_delete maps sound owner key).bind fun _ => trivial
  | some elements => exact sends_setValue maps sound owner key _

theorem sends_find (field : Field) (pattern : String) (anchoring : Anchoring) :
    ((Store.mk mapping).find field pattern anchoring).Sends (Sendable mapping) := by
  unfold find
  rw [find_eq]
  have linked : Linked [⟨field, .text (anchoring.anchor pattern), .init⟩] :=
    ⟨rfl, List.forall_mem_nil _⟩
  apply sends_rows maps sound (Query.requested_select _ _ linked)
  intro rows
  simp only [offsets_eq maps]
  exact Program.sends_ofExcept _

theorem sends_getValue {α : Type} (decoder : Json.Decoder α) (owner key : String) :
    ((Store.mk mapping).getValue decoder owner key).Sends (Sendable mapping) := by
  apply Program.Sends.bind (sends_getString maps sound owner key)
  intro text?
  cases text? with
  | none => trivial
  | some text => exact (Program.sends_ofExcept _).bind fun _ => trivial

theorem sends_getList {α : Type} (decoder : Json.Decoder α) (owner key : String) :
    ((Store.mk mapping).getList decoder owner key).Sends (Sendable mapping) := by
  apply Program.Sends.bind (sends_getString maps sound owner key)
  intro text?
  cases text? with
  | none => trivial
  | some text => exact Program.sends_ofExcept _

/-- Whatever is replied to a call, each statement that it sends is about the table of the mapping
and keeps within its definitions. -/
theorem IsCall.sends {α : Type} {program : Program α} (call : (Store.mk mapping).IsCall program) :
    program.Sends (Sendable mapping) := by
  cases call with
  | ensureTable =>
      rw [Store.ensureTable, tableStatement_eq maps]
      exact ⟨sendable_create maps sound, fun _ => trivial⟩
  | getString owner key => exact sends_getString maps sound owner key
  | contains owner key =>
      apply sends_rows maps sound (Query.requested_select _ _ (linked_pairFilter owner key))
      intro rows
      trivial
  | delete owner key => exact sends_delete maps sound owner key
  | purge owner =>
      apply sends_affected maps sound
      exact Query.requested_act trivial (linked_ownerFilter owner)
  | setValue owner key value => exact sends_setValue maps sound owner key value
  | setString owner key text? =>
      cases text? with
      | none => exact (sends_delete maps sound owner key).bind fun _ => trivial
      | some text => exact sends_setValue maps sound owner key _
  | setObject owner key document => exact sends_setValue maps sound owner key _
  | setList owner key elements? => exact sends_setList maps sound owner key elements?
  | setStringList owner key texts? => exact sends_setList maps sound owner key _
  | keys owner =>
      apply sends_rows maps sound (Query.requested_select _ _ (linked_ownerFilter owner))
      intro rows
      trivial
  | find field pattern anchoring => exact sends_find maps sound field pattern anchoring
  | entries owner => exact sends_find maps sound _ _ _
  | getValue decoder owner key => exact sends_getValue maps sound decoder owner key
  | getInt64 owner key => exact sends_getValue maps sound _ owner key
  | getDouble owner key => exact sends_getValue maps sound _ owner key
  | getBool owner key => exact sends_getValue maps sound _ owner key
  | getList decoder owner key => exact sends_getList maps sound decoder owner key
  | getStringList owner key => exact sends_getList maps sound _ owner key

/-- Where the table is created, it is there as the mapping defines it. -/
theorem create_of_ensureTable {meaning : PatternMeaning} {before after : Connection}
    (ran : (Store.mk mapping).ensureTable.run (Connection.executor meaning) before =
      (.ok (), after)) :
    before.isOpen = true ∧ after.isOpen = true ∧
      before.database.create mapping.table (freshTable mapping).columns = .ok after.database := by
  let statement := Statement.create mapping.table (freshTable mapping).columns
  rw [ensureTable, tableStatement_eq maps] at ran
  change (Program.execute (.of statement []) fun _ => .done ()).run _ _ = _ at ran
  obtain ⟨count, between, executed, finished⟩ := Program.exists_of_run_execute ran
  cases finished
  have reads : Statement.read? (Prepared.of statement []).sql = some statement :=
    read?_create maps sound
  obtain ⟨isOpen, outcome, database, answered, _, rfl⟩ :=
    Connection.exists_of_execute reads executed
  obtain ⟨created, done, same⟩ := Outcome.bind_eq_ok_iff.mp answered
  cases same
  exact ⟨isOpen, isOpen, done⟩

end Sendable

/-- The table that a store creates, and what the store sends, fit together. -/
theorem statements_fit_table {normalize : String → String} (laws : NormalForm normalize)
    {mapping : Mapping} (checked : mapping.Checked normalize) {store : Store}
    (made : ofMapping mapping = .ok store) :
    ∃ definitions : List ColumnDefinition,
      (∃ sent : Prepared, Statement.read? sent.sql = some (.create mapping.table definitions) ∧
        ∀ {σ : Type} (executor : Executor σ) (state : σ),
          store.ensureTable.log executor state =
            [.executed sent (executor.execute sent state).1]) ∧
      (∀ call owner key value, Call.stores? call = some (owner, key, value) →
        ∃ (update insert : Prepared) (columns : List String),
          store.perform call = .upsert update insert ∧
          Statement.read? insert.sql = some (.insert mapping.table columns) ∧
          ∀ definition ∈ definitions, definition.required = true →
            ∃ (position : Nat) (text : String), columns[position]? = some definition.name ∧
              insert.params[position]? = some text) ∧
      (∀ {α σ : Type} {program : Program α}, store.IsCall program →
        ∀ (executor : Executor σ) (state : σ), ∀ exchange ∈ program.log executor state,
          ∃ statement, Statement.read? exchange.statement.sql = some statement ∧
            statement.table = mapping.table ∧
            ∀ column ∈ statement.mentions, column ∈ definitions.map (·.name)) ∧
      ∀ (meaning : PatternMeaning) (before after : Connection),
        before.database.find? mapping.table = none →
        store.ensureTable.run (Connection.executor meaning) before = (.ok (), after) →
        ∃ table : Table, table.columns = definitions ∧ after.Offers mapping.table table ∧
          ∀ connection, connection.Offers mapping.table table →
            ∀ {α : Type} {program : Program α}, store.IsCall program →
              (program.run (Connection.executor meaning) connection).2.Offers mapping.table
                  table ∧
                ∀ refusal : Refusal,
                  (program.run (Connection.executor meaning) connection).1 =
                      .error refusal.toFailure.toError →
                    refusal = .malformedPattern := by
  obtain ⟨maps, rfl⟩ := (ofMapping_yields mapping).of_ok made
  have sound := checked.sound laws
  refine ⟨(freshTable mapping).columns,
    ⟨.of (.create mapping.table (freshTable mapping).columns) [], ?_, ?_⟩, ?_, ?_, ?_⟩
  · exact read?_create maps sound
  · exact log_ensureTable maps
  · intro call owner key value stores
    let query : Query := .insert [⟨.owner, .text owner⟩, ⟨.key, .text key⟩, ⟨.value, value⟩]
    have requested : query.Requested := Query.requested_insert owner key value
    have insertion : mapping.layout.insertStatement owner key value =
        .of (query.shape mapping.layout) query.params := rfl
    refine ⟨_, mapping.layout.insertStatement owner key value,
      query.assignments.map fun assignment => mapping.layout.primaryOf assignment.field,
      perform_eq_upsert maps stores, ?_, ?_⟩
    · rw [insertion]
      exact Query.read?_shape sound requested.linked (Query.complete_of_maps maps requested.asks)
    · exact (within_shape maps requested).filled _ _ rfl
  · intro α σ program call executor state exchange member
    obtain ⟨statement, reads, about, within⟩ := (call.sends maps sound).log executor state
      exchange member
    refine ⟨statement, reads, about, fun column mentioned => ?_⟩
    exact List.mem_map.mpr (within.declared column mentioned)
  · intro meaning before after absent ran
    obtain ⟨_, isOpen, created⟩ := create_of_ensureTable maps sound ran
    obtain ⟨found, tidy⟩ := Database.find?_create_new absent created
    refine ⟨freshTable mapping, rfl, ⟨isOpen, [], found⟩, ?_⟩
    intro connection offers α program call
    have keeps : (Connection.executor meaning).Keeps (Sendable mapping) _ _ :=
      Connection.keeps_within tidy
    have sends := call.sends maps sound
    refine ⟨(sends.kept keeps offers).1, fun refusal failed => ?_⟩
    rcases sends.error_of_run (call.ensures maps []) keeps offers failed with
      (same | ⟨reason, same⟩) | ⟨rows, unreadable⟩
    · exact Refusal.eq_malformedPattern_of_toError same
    · exact absurd same (refusal.toError_ne_deserialization reason)
    · obtain ⟨reason, same⟩ := unreadable.exists_reason
      exact absurd same (refusal.toError_ne_deserialization reason)

theorem statements_fit_table_sample :
    (∃ (update insert : Prepared) (columns : List String),
      (Store.mk lentColumns).perform (.setString "u" "k" (some "v")) = .upsert update insert ∧
        Statement.read? insert.sql = some (.insert "meta" columns)) ∧
      ∃ table : Table, (stored lentColumns []).Offers "meta" table ∧
        ∀ refusal : Refusal,
          (((Store.mk lentColumns).find .key "(" .full).run (Connection.executor meaning?)
            (stored lentColumns [])).1 = .error refusal.toFailure.toError →
          refusal = .malformedPattern := by
  have made : ofMapping lentColumns = .ok ⟨lentColumns⟩ := rfl
  have usable : lentColumns.Usable := by
    refine ⟨?_, by decide, by decide, ?_, by decide⟩
    · intro field
      cases field <;> exact List.cons_ne_nil _ _
    · intro field other
      cases field <;> cases other <;> decide
  obtain ⟨definitions, _, inserts, _, meets⟩ :=
    statements_fit_table Identifier.normalForm_id checked_lentColumns made
  obtain ⟨update, insert, columns, upserts, reads, _⟩ :=
    inserts (.setString "u" "k" (some "v")) "u" "k" (.text "v") rfl
  have created : (Store.mk lentColumns).ensureTable.run (Connection.executor meaning?)
      (.of Database.empty) = (.ok (), stored lentColumns []) :=
    run_ensureTable_empty (checked_lentColumns.sound Identifier.normalForm_id) usable
  obtain ⟨table, _, offers, kept⟩ := meets meaning? (.of Database.empty) _ rfl created
  exact ⟨⟨update, insert, columns, upserts, reads⟩, table, offers,
    (kept _ offers (.find .key "(" .full)).2⟩

end Store

end EntryStore
