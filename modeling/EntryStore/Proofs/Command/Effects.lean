import EntryStore.Command.Run
import EntryStore.Proofs.Sql.Unchanged
import EntryStore.Proofs.Store.Clients
import EntryStore.Proofs.Store.Integrity
import EntryStore.Proofs.Store.RoundTrip

/-!
# What commands change

A command that shows what is stored changes nothing, and where the table is not there, one that
stores or removes fails without a change.  No command lets a second row appear at a pair
(`Store.Orderly`), so that there is exactly one row at a pair for which texts have been set
(`Store.Keeps`), which the commands behind it show and remove.
-/

namespace EntryStore

open Sql (Connection Database PatternMeaning Refines)
open Regex (Takes meaning? takes_meaning?)
open Store (Holds run_finish)

/-! ## Tables with single rows -/

/-- At most one row is at each pair. -/
def Store.Single (mapping : Mapping) (rows : List Row) : Prop :=
  ∀ owner key, rows.countP (mapping.layout.isAt (freshTable mapping) owner key) ≤ 1

/-- A database has no table of a mapping, or one with at most one row at each pair. -/
def Store.Orderly (mapping : Mapping) (database : Database) : Prop :=
  database.find? mapping.table = none ∨
    ∃ rows, Holds mapping rows (.of database) ∧ Store.Single mapping rows

namespace Store

variable {mapping : Mapping} {rows : List Row}

theorem Single.filter (single : Single mapping rows) (kept : Row → Bool) :
    Single mapping (rows.filter kept) :=
  fun owner key => (List.filter_sublist.countP_le).trans (single owner key)

/-- After a text has been stored for a pair, one row is at the pair. -/
theorem countP_storeRows (separate : mapping.Separate) (single : Single mapping rows)
    (owner key text : String) :
    (mapping.layout.storeRows (freshTable mapping) owner key text rows).countP
      (mapping.layout.isAt (freshTable mapping) owner key) = 1 := by
  unfold Layout.storeRows
  split
  · next absent =>
      have absent : rowsAt mapping (owner, key) rows = 0 := absent
      refine (countP_insert separate owner key text (owner, key)).trans ?_
      rw [absent, beq_self_eq_true]
      rfl
  · next present =>
      refine (countP_rewrite separate owner key text (owner, key)).trans ?_
      exact le_antisymm (single owner key) (Nat.pos_of_ne_zero present)

theorem Single.storeRows (separate : mapping.Separate) (single : Single mapping rows)
    (owner key text : String) :
    Single mapping (mapping.layout.storeRows (freshTable mapping) owner key text rows) := by
  intro owner' key'
  by_cases same : (owner, key) = (owner', key')
  · obtain ⟨rfl, rfl⟩ := Prod.mk.inj same
    exact (countP_storeRows separate single owner key text).le
  · unfold Layout.storeRows
    split
    · refine (countP_insert separate owner key text (owner', key')).le.trans ?_
      rw [beq_eq_false_iff_ne.mpr same]
      exact single owner' key'
    · exact (countP_rewrite separate owner key text (owner', key')).le.trans (single owner' key')

end Store

/-! ## What commands send -/

namespace Command

/-- A command that shows what is stored. -/
def Reads : Command → Prop
  | .get _ _ _ | .keys _ | .find _ => True
  | .init | .set _ _ _ _ | .delete _ _ | .purge _ => False

section Run

variable {σ α : Type} {store : Store} {executor : Executor σ} {command : Command} {state : σ}

/-- A run of a command leaves the state that the run of its program leaves. -/
theorem run_snd : (command.run store executor state).2 =
    ((command.output store).run executor state).2 := by
  unfold run
  rcases (command.output store).run executor state with ⟨error | _ | output, after⟩ <;> rfl

variable {program : Program α} {finish : α → Option String}
variable (shape : command.output store = program.bind fun result => .done (finish result))
include shape

/-- Where a command makes its output of the result of a program, the program leaves the state. -/
theorem run_snd_of_shape : (command.run store executor state).2 =
    (program.run executor state).2 := by
  rw [run_snd, shape, Program.run_bind]
  rcases program.run executor state with ⟨error | result, after⟩ <;> rfl

theorem run_of_shape {result : α} {after : σ} {output : String}
    (ran : program.run executor state = (.ok result, after)) (shown : finish result = some output) :
    command.run store executor state = (.success output, after) := by
  rw [run, shape, run_finish ran, shown]

theorem run_of_shape_none {result : α} {after : σ}
    (ran : program.run executor state = (.ok result, after)) (shown : finish result = none) :
    command.run store executor state = (.failure command.absence, after) := by
  rw [run, shape, run_finish ran, shown]

theorem code_of_shape_error {error : Error} {after : σ}
    (ran : program.run executor state = (.error error, after)) :
    (command.run store executor state).1.code = 1 := by
  rw [run, shape, Program.run_bind, ran]
  rfl

end Run

end Command

section Sending

variable {mapping : Mapping} (maps : ∀ field, mapping.layout.Maps field) (sound : mapping.Sound)
include maps sound

theorem Store.selects_rows {α : Type} {fields : List Field} {filter : Filter} (asks : fields ≠ [])
    (linked : Linked filter.conditions) {next : List Row → Program α}
    (later : ∀ rows, (next rows).Sends Sql.Prepared.Selects) :
    (((Store.mk mapping).rows (.ok (.act (.select fields) filter))).bind next).Sends
      Sql.Prepared.Selects := by
  have complete : (Query.act (.select fields) filter).Complete mapping.layout :=
    Query.complete_of_maps maps asks
  rw [rows_eq complete]
  exact ⟨⟨_, _, _, Query.read?_shape sound linked complete⟩, later⟩

theorem Store.selects_getString (owner key : String) :
    ((Store.mk mapping).getString owner key).Sends Sql.Prepared.Selects :=
  selects_rows maps sound (List.cons_ne_nil _ _) (linked_pairFilter owner key) fun _ => trivial

/-- A command that shows what is stored changes nothing. -/
theorem Command.selects_output {command : Command} (reads : command.Reads) :
    (command.output (Store.mk mapping)).Sends Sql.Prepared.Selects := by
  cases command with
  | get owner key asList =>
      cases asList with
      | false => exact (Store.selects_getString maps sound owner key).bind fun _ => trivial
      | true =>
          refine Program.Sends.bind ?_ fun _ => trivial
          refine (Store.selects_getString maps sound owner key).bind fun text? => ?_
          cases text? with
          | none => trivial
          | some text => exact Program.sends_ofExcept _
  | keys owner =>
      refine Program.Sends.bind ?_ fun _ => trivial
      exact Store.selects_rows maps sound (List.cons_ne_nil _ _) (Store.linked_ownerFilter owner)
        fun _ => trivial
  | find search =>
      refine Program.Sends.bind ?_ fun _ => trivial
      unfold Store.find
      rw [Store.find_eq]
      have linked :
          Linked [⟨search.field, .text (search.anchoring.anchor search.pattern), .init⟩] :=
        ⟨rfl, List.forall_mem_nil _⟩
      refine Store.selects_rows maps sound (List.cons_ne_nil _ _) linked fun rows => ?_
      simp only [Store.offsets_eq maps]
      exact Program.sends_ofExcept _
  | init | set | delete | purge => cases reads

/-- Where the statement of a query is refused, the query fails and changes nothing. -/
theorem Store.affected_refused {query : Query} (asks : query.Asks)
    (linked : Linked query.conditions) {execution : Database.Execution} {connection : Connection}
    (refused : ∀ params, ∃ refusal,
      execution connection.database (query.shape mapping.layout) params = .error refusal) :
    ∃ error, ((Store.mk mapping).affected (.ok query)).run (Connection.executorBy execution)
      connection = (.error error, connection) := by
  have complete : query.Complete mapping.layout := Query.complete_of_maps maps asks
  rw [affected_eq complete, Program.run_countOf]
  exact Connection.exists_error_of_refused (Query.read?_shape sound linked complete) (refused _)

end Sending

/-! ## What commands change -/

/-- The value as which texts are stored: one text as it is, and several as a list. -/
def Command.valueOf (first : String) : List String → Value
  | [] => .text first
  | others => .json (.array ((first :: others).map Json.string))

theorem Command.output_set (store : Store) (owner key first : String) (others : List String) :
    (Command.set owner key first others).output store =
      (store.setValue owner key (valueOf first others)).bind fun _ => .done (some "") := by
  cases others <;> rfl

theorem Program.run_bind_error {σ α β : Type} {executor : Executor σ} {program : Program α}
    {state after : σ} {error : Error} (failed : program.run executor state = (.error error, after))
    (next : α → Program β) : (program.bind next).run executor state = (.error error, after) := by
  rw [Program.run_bind, failed]

namespace Store

variable {mapping : Mapping} {database : Database} {meaning : PatternMeaning}

theorem Holds.orderly {rows : List Row} {connection : Connection}
    (holds : Holds mapping rows connection) (single : Single mapping rows) :
    ∃ after, connection = .of after ∧ Orderly mapping after := by
  obtain ⟨after, rfl⟩ := holds.exists_database
  exact ⟨after, rfl, Or.inr ⟨rows, holds, single⟩⟩

variable (maps : ∀ field, mapping.layout.Maps field) (sound : mapping.Sound)
include maps sound

/-- Creating the table leaves the rows of a table that is there. -/
theorem Orderly.ensureTable (orderly : Orderly mapping database) :
    ∃ after, ((Store.mk mapping).ensureTable.run (Connection.executor meaning)
      (.of database)).2 = .of after ∧ Orderly mapping after := by
  rcases ran : (Store.mk mapping).ensureTable.run (Connection.executor meaning) (.of database)
    with ⟨error | _, after⟩
  · refine ⟨database, ?_, orderly⟩
    rw [Store.ensureTable, tableStatement_eq maps] at ran
    change (Program.execute _ fun _ => .done ()).run _ _ = _ at ran
    rcases sent : (Connection.executor meaning).execute _ (.of database) with ⟨_ | count, left⟩
    · rw [Program.run, sent] at ran
      obtain rfl := (Prod.mk.inj ran).2
      exact Connection.eq_of_execute_error sent
    · rw [Program.run, sent] at ran
      cases ran
  · obtain ⟨_, isOpen, created⟩ := create_of_ensureTable maps sound ran
    obtain ⟨after, _⟩ := after
    obtain rfl := isOpen
    refine ⟨after, rfl, Or.inr ?_⟩
    rcases orderly with absent | ⟨rows, holds, single⟩
    · refine ⟨[], ⟨rfl, (Database.find?_create_new absent created).1, List.forall_mem_nil _⟩, ?_⟩
      exact fun _ _ => Nat.zero_le _
    · exact ⟨rows, ⟨rfl, Database.find?_create holds.found created, holds.admissible⟩, single⟩

/-- A value is not stored where the update of a row is refused. -/
theorem setValue_refused {execution : Database.Execution} {connection : Connection}
    {owner key : String} {value : Value} (refused : ∀ columns clause params, ∃ refusal,
      execution connection.database (.update mapping.table columns clause) params =
        .error refusal) :
    ∃ error, ((Store.mk mapping).setValue owner key value).run (Connection.executorBy execution)
      connection = (.error error, connection) := by
  have asks : (Query.act (.update [⟨.value, value⟩]) (pairFilter owner key)).Asks :=
    List.cons_ne_nil _ _
  obtain ⟨error, failed⟩ := affected_refused maps sound asks (linked_pairFilter owner key)
    (refused _ _)
  exact ⟨error, Program.run_bind_error failed _⟩

variable (absent : database.find? mapping.table = none)
include absent

theorem setValue_absent (owner key : String) (value : Value) :
    ∃ error, ((Store.mk mapping).setValue owner key value).run (Connection.executor meaning)
      (.of database) = (.error error, .of database) :=
  setValue_refused maps sound fun _ _ _ =>
    Database.exists_refusal_of_absent absent fun _ _ => Sql.Statement.noConfusion

/-- Without the table, no rows are removed from it. -/
theorem removal_absent {filter : Filter} (linked : Linked filter.conditions) :
    ∃ error, ((Store.mk mapping).affected (.ok (.act .delete filter))).run
      (Connection.executor meaning) (.of database) = (.error error, .of database) := by
  have asks : (Query.act .delete filter).Asks := trivial
  exact affected_refused maps sound asks linked fun _ =>
    Database.exists_refusal_of_absent absent fun _ _ => Sql.Statement.noConfusion

omit absent

variable (separate : Database.IsHere mapping.table → mapping.Separate)
variable (refines : Refines meaning meaning?)
include separate refines

/-- Storing a value leaves at most one row at each pair. -/
theorem Orderly.setValue (orderly : Orderly mapping database) (owner key : String) (value : Value) :
    ∃ after, (((Store.mk mapping).setValue owner key value).run (Connection.executor meaning)
      (.of database)).2 = .of after ∧ Orderly mapping after := by
  rcases orderly with absent | ⟨rows, holds, single⟩
  · obtain ⟨error, failed⟩ := setValue_absent maps sound absent owner key value
    rw [failed]
    exact ⟨database, rfl, Or.inl absent⟩
  · have apart := separate (Database.isHere_of_find? holds.found).1
    obtain ⟨stored | ⟨error, refused⟩, held⟩ :=
      holds.run_setValue_or_refused refines sound apart owner key value
    · rw [stored]
      exact held.orderly (single.storeRows apart owner key value.parameter)
    · rw [refused]
      exact ⟨database, rfl, Or.inr ⟨rows, holds, single⟩⟩

/-- Removing rows leaves at most one row at each pair. -/
theorem Orderly.removal (orderly : Orderly mapping database) {filter : Filter}
    {picks : (Field → Option String) → Bool} (selects : Selects meaning? filter picks) :
    ∃ after, (((Store.mk mapping).affected (.ok (.act .delete filter))).run
      (Connection.executor meaning) (.of database)).2 = .of after ∧ Orderly mapping after := by
  rcases orderly with absent | ⟨rows, holds, single⟩
  · obtain ⟨error, failed⟩ := removal_absent maps sound absent selects.linked
    rw [failed]
    exact ⟨database, rfl, Or.inl absent⟩
  · have apart := separate (Database.isHere_of_find? holds.found).1
    have removed := (holds.delete sound apart selects).run
    have asks : (Query.act .delete filter).Asks := trivial
    rcases Program.run_or_refused refines (sendsLater_affected maps asks) removed with
      ⟨error, refused⟩ | same
    · rw [refused]
      exact ⟨database, rfl, Or.inr ⟨rows, holds, single⟩⟩
    · rw [same]
      exact (holds.withRows fun row member =>
        holds.admissible row (List.mem_of_mem_filter member)).orderly (single.filter _)

end Store

namespace Command

variable {mapping : Mapping} {database : Database} {meaning : PatternMeaning}
variable (maps : ∀ field, mapping.layout.Maps field) (sound : mapping.Sound)
variable (separate : Database.IsHere mapping.table → mapping.Separate)
variable (refines : Refines meaning meaning?)
include maps sound separate refines

/-- What one command leaves of a database without a table of the mapping, or with at most one row
at each pair. -/
theorem orderly (command : Command) (orderly : Store.Orderly mapping database) :
    ∃ after, (command.run (Store.mk mapping) (Connection.executor meaning) (.of database)).2 =
      .of after ∧ Store.Orderly mapping after := by
  have reading : ∀ {command : Command}, command.Reads →
      ∃ after, (command.run (Store.mk mapping) (Connection.executor meaning) (.of database)).2 =
        .of after ∧ Store.Orderly mapping after := by
    intro command reads
    rw [run_snd]
    exact ⟨database, ((selects_output maps sound reads).kept
      (Connection.keeps_selects (.of database)) rfl).1, orderly⟩
  cases command with
  | init =>
      rw [run_snd_of_shape rfl]
      exact orderly.ensureTable maps sound
  | set owner key first others =>
      rw [run_snd_of_shape (output_set _ owner key first others)]
      exact orderly.setValue maps sound separate refines owner key _
  | delete owner key =>
      rw [run_snd_of_shape rfl]
      exact orderly.removal maps sound separate refines
        (Store.selects_pair (takes_meaning? owner) (takes_meaning? key))
  | purge owner =>
      rw [run_snd_of_shape rfl]
      exact orderly.removal maps sound separate refines (Store.selects_owner (takes_meaning? owner))
  | get | keys | find => exact reading trivial

end Command

/-! ## After texts have been set -/

/-- The table of a mapping has exactly one row at a pair, and that holds a text. -/
def Store.Keeps (mapping : Mapping) (owner key text : String) (database : Database) : Prop :=
  ∃ rows, Holds mapping rows (.of database) ∧
    rows.countP (mapping.layout.isAt (Store.freshTable mapping) owner key) = 1 ∧
    (rows.find? (mapping.layout.isAt (Store.freshTable mapping) owner key)).bind
      (mapping.layout.cells (Store.freshTable mapping) · .value) = some text

namespace Command

variable {mapping : Mapping} {database : Database} {meaning : PatternMeaning} {owner key : String}

section Orderly

variable (maps : ∀ field, mapping.layout.Maps field) (sound : mapping.Sound)
variable (separate : Database.IsHere mapping.table → mapping.Separate)
variable (refines : Refines meaning meaning?)
include maps sound separate refines

/-- A command that sets texts succeeds only where the table is there, which then has one row at
the pair. -/
theorem keeps_of_set {first : String} {others : List String}
    (orderly : Store.Orderly mapping database)
    (succeeded : ((Command.set owner key first others).run (Store.mk mapping)
      (Connection.executor meaning) (.of database)).1.code = 0) :
    database.find? mapping.table ≠ none ∧
      ∃ after, ((Command.set owner key first others).run (Store.mk mapping)
          (Connection.executor meaning) (.of database)).2 = .of after ∧
        Store.Keeps mapping owner key (valueOf first others).parameter after := by
  rcases orderly with absent | ⟨rows, holds, single⟩
  · obtain ⟨error, failed⟩ := Store.setValue_absent maps sound absent owner key
      (valueOf first others)
    have code := code_of_shape_error (output_set _ owner key first others) failed
    rw [succeeded] at code
    cases code
  · have apart := separate (Database.isHere_of_find? holds.found).1
    obtain ⟨stored | ⟨error, refused⟩, held⟩ :=
      holds.run_setValue_or_refused refines sound apart owner key (valueOf first others)
    · refine ⟨fun absent => ?_, ?_⟩
      · cases holds.found.symm.trans absent
      · rw [run_snd_of_shape (output_set _ owner key first others), stored]
        obtain ⟨after, same⟩ := held.exists_database
        rw [same] at held ⊢
        exact ⟨after, rfl, _, held, Store.countP_storeRows apart single owner key _,
          Store.find?_storeRows apart.usable holds.admissible owner key _⟩
    · have code := code_of_shape_error (output_set _ owner key first others) refused
      rw [succeeded] at code
      cases code

end Orderly

section Keeps

variable {text : String} (sound : mapping.Sound)
variable (separate : Database.IsHere mapping.table → mapping.Separate)
variable (ownerTaken : Takes meaning owner) (keyTaken : Takes meaning key)
variable (keeps : Store.Keeps mapping owner key text database)
include sound separate ownerTaken keyTaken keeps

theorem get_of_keeps : (Command.get owner key false).run (Store.mk mapping)
    (Connection.executor meaning) (.of database) = (.success (lines [text]), .of database) := by
  obtain ⟨rows, holds, -, shown⟩ := keeps
  have apart := separate (Database.isHere_of_find? holds.found).1
  have asked := holds.run_getString sound apart ownerTaken keyTaken
  rw [shown] at asked
  exact run_of_shape rfl asked rfl

theorem getList_of_keeps {texts : List String}
    (decoded : Json.Decoder.string.list.decode text = .ok texts) :
    (Command.get owner key true).run (Store.mk mapping) (Connection.executor meaning)
      (.of database) = (.success (lines texts), .of database) := by
  obtain ⟨rows, holds, -, shown⟩ := keeps
  have apart := separate (Database.isHere_of_find? holds.found).1
  have asked := holds.run_getString sound apart ownerTaken keyTaken
  rw [shown] at asked
  have listed : ((Store.mk mapping).getStringList owner key).run (Connection.executor meaning)
      (.of database) = (.ok texts, .of database) := by
    change (((Store.mk mapping).getString owner key).bind _).run _ _ = _
    rw [Program.run_bind, asked]
    simp only [Store.decodeJson, decoded]
    rfl
  exact run_of_shape rfl listed rfl

theorem keys_of_keeps : ∃ keys, (Command.keys owner).run (Store.mk mapping)
      (Connection.executor meaning) (.of database) = (.success (lines keys), .of database) ∧
    keys.count key = 1 := by
  obtain ⟨rows, holds, single, -⟩ := keeps
  have apart := separate (Database.isHere_of_find? holds.found).1
  obtain ⟨keys, asked, counted⟩ := (holds.shows sound apart ownerTaken keyTaken).keys
  exact ⟨keys, run_of_shape rfl asked rfl, counted.trans single⟩

/-- A deletion removes the row, after which nothing is shown. -/
theorem delete_of_keeps : ∃ after,
    (Command.delete owner key).run (Store.mk mapping) (Connection.executor meaning)
      (.of database) = (.success (lines [removalText 1]), .of after) ∧
    (Command.get owner key false).run (Store.mk mapping) (Connection.executor meaning)
      (.of after) = (.failure (Command.get owner key false).absence, .of after) := by
  obtain ⟨rows, holds, single, -⟩ := keeps
  have apart := separate (Database.isHere_of_find? holds.found).1
  obtain ⟨counts, held⟩ := holds.delete_pair sound apart ownerTaken keyTaken
  rw [single] at counts
  obtain ⟨after, same⟩ := held.exists_database
  have removed := counts.run
  rw [same] at held removed
  refine ⟨after, run_of_shape rfl removed rfl, ?_⟩
  have asked := held.run_getString sound apart ownerTaken keyTaken
  rw [Store.find?_remove] at asked
  exact run_of_shape_none rfl asked rfl

end Keeps

end Command

end EntryStore
