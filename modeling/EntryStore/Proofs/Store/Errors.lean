import EntryStore.Store.Typed
import EntryStore.Proofs.Exchange
import EntryStore.Proofs.Store.Refinement

/-!
# The errors of a store

A store exists only for a mapping of all fields.  Whatever its executor replies, a call of such a
store then fails by itself only where it cannot read the rows of the last reply; any other error
is the executor's, and ends the call.
-/

namespace EntryStore.Store

open Json (Decoder)

/-- Why the rows of a reply cannot be read: a row is no entry, or a text in it is no JSON text of
the wanted type. -/
inductive Unreadable (rows : List Row) : Error → Prop where
  | row {keyAt valueAt : Nat} {row : Row} {fault : RowFault} (member : row ∈ rows)
      (refused : entryOfRow keyAt valueAt row = .error fault) : Unreadable rows fault.toError
  | text {α : Type} {decoder : Decoder α} {row : Row} {text : String} {fault : Json.Fault}
      (member : row ∈ rows) (cell : some text ∈ row) (refused : decoder.decode text = .error fault) :
      Unreadable rows (.deserialization (fault.report text))

/-- The calls of a store. -/
inductive IsCall (store : Store) : {α : Type} → Program α → Prop where
  | ensureTable : IsCall store store.ensureTable
  | getString (owner key : String) : IsCall store (store.getString owner key)
  | contains (owner key : String) : IsCall store (store.contains owner key)
  | delete (owner key : String) : IsCall store (store.delete owner key)
  | purge (owner : String) : IsCall store (store.purge owner)
  | setValue (owner key : String) (value : Value) : IsCall store (store.setValue owner key value)
  | setString (owner key : String) (text? : Option String) :
      IsCall store (store.setString owner key text?)
  | setObject (owner key : String) (document : Json) :
      IsCall store (store.setObject owner key document)
  | setList (owner key : String) (elements? : Option (List Json)) :
      IsCall store (store.setList owner key elements?)
  | setStringList (owner key : String) (texts? : Option (List String)) :
      IsCall store (store.setStringList owner key texts?)
  | keys (owner : String) : IsCall store (store.keys owner)
  | find (field : Field) (pattern : String) (anchoring : Anchoring) :
      IsCall store (store.find field pattern anchoring)
  | entries (owner : String) : IsCall store (store.entries owner)
  | getValue {α : Type} (decoder : Decoder α) (owner key : String) :
      IsCall store (store.getValue decoder owner key)
  | getInt64 (owner key : String) : IsCall store (store.getInt64 owner key)
  | getDouble (owner key : String) : IsCall store (store.getDouble owner key)
  | getBool (owner key : String) : IsCall store (store.getBool owner key)
  | getList {α : Type} (decoder : Decoder α) (owner key : String) :
      IsCall store (store.getList decoder owner key)
  | getStringList (owner key : String) : IsCall store (store.getStringList owner key)

/-- Rows that cannot be read are reported as such. -/
theorem Unreadable.exists_reason {rows : List Row} {error : Error}
    (unreadable : Unreadable rows error) : ∃ reason, error = .deserialization reason := by
  cases unreadable with
  | @row _ _ _ fault _ _ =>
      cases fault with
      | noCell position => exact ⟨_, rfl⟩
      | null field => exact ⟨_, rfl⟩
  | text _ _ _ => exact ⟨_, rfl⟩

/-! ## Calls -/

section Calls

variable {mapping : Mapping} (maps : ∀ field, mapping.layout.Maps field)
include maps

/-- A selection does not fail before it is sent. -/
theorem ensures_rows {α : Type} {returns : List Row → α → Prop} {last : List Row} {query : Query}
    {next : List Row → Program α} (asks : query.Asks)
    (each : ∀ rows, (next rows).Ensures returns Unreadable rows) :
    (((Store.mk mapping).rows (.ok query)).bind next).Ensures returns Unreadable last := by
  rw [rows_eq (Query.complete_of_maps maps asks)]
  exact each

/-- A query that changes rows does not fail before it is sent. -/
theorem ensures_affected {query : Query} (asks : query.Asks) (last : List Row) :
    ((Store.mk mapping).affected (.ok query)).Ensures (fun _ _ => True) Unreadable last := by
  rw [affected_eq (Query.complete_of_maps maps asks)]
  intro count
  trivial

theorem ensures_ensureTable (last : List Row) :
    (Store.mk mapping).ensureTable.Ensures (fun _ _ => True) Unreadable last := by
  rw [ensureTable, tableStatement_eq maps]
  intro count
  trivial

/-- A text that is found stands in a row. -/
theorem ensures_getString (owner key : String) (last : List Row) :
    ((Store.mk mapping).getString owner key).Ensures
      (fun rows text? => ∀ text, text? = some text → ∃ row ∈ rows, some text ∈ row)
      Unreadable last := by
  refine ensures_rows maps ?_ fun rows => ?_
  · exact List.cons_ne_nil _ _
  · intro text found
    cases rows with
    | nil => cases found
    | cons row rows =>
        cases row with
        | nil => cases found
        | cons cell cells =>
            have first : cell = some text := found
            exact ⟨_, List.mem_cons_self, first ▸ List.mem_cons_self⟩

theorem ensures_delete (owner key : String) (last : List Row) :
    ((Store.mk mapping).delete owner key).Ensures (fun _ _ => True) Unreadable last := by
  refine ensures_affected maps ?_ last
  trivial

theorem ensures_setValue (owner key : String) (value : Value) (last : List Row) :
    ((Store.mk mapping).setValue owner key value).Ensures (fun _ _ => True) Unreadable last := by
  refine Program.Ensures.bind (ensures_affected maps ?_ last) fun rows updated _ => ?_
  · exact List.cons_ne_nil _ _
  · split
    · refine Program.Ensures.bind (ensures_affected maps ?_ rows) fun _ _ _ => trivial
      exact List.cons_ne_nil _ _
    · trivial

theorem ensures_setList (owner key : String) (elements? : Option (List Json)) (last : List Row) :
    ((Store.mk mapping).setList owner key elements?).Ensures (fun _ _ => True) Unreadable
      last := by
  cases elements? with
  | none => exact (ensures_delete maps owner key last).bind fun _ _ _ => trivial
  | some elements => exact ensures_setValue maps owner key _ last

/-- Entries are read off rows, each of which has to be one. -/
theorem ensures_find (field : Field) (pattern : String) (anchoring : Anchoring)
    (last : List Row) :
    ((Store.mk mapping).find field pattern anchoring).Ensures (fun _ _ => True) Unreadable
      last := by
  unfold find
  rw [find_eq]
  refine ensures_rows maps ?_ fun rows => ?_
  · exact List.cons_ne_nil _ _
  · simp only [offsets_eq maps]
    refine Program.ensures_ofExcept (fun _ _ => trivial) fun error refused => ?_
    obtain ⟨fault, unread, rfl⟩ := Outcome.mapError_eq_error_iff.mp refused
    obtain ⟨row, member, refused⟩ := Outcome.exists_of_mapM_eq_error unread
    exact .row member refused

/-- A text that is found is decoded. -/
theorem ensures_getValue {α : Type} (decoder : Decoder α) (owner key : String)
    (last : List Row) :
    ((Store.mk mapping).getValue decoder owner key).Ensures (fun _ _ => True) Unreadable
      last := by
  refine (ensures_getString maps owner key last).bind fun rows text? stands => ?_
  cases text? with
  | none => trivial
  | some text =>
      obtain ⟨row, member, cell⟩ := stands text rfl
      have decoded : (Program.ofExcept (decodeStored decoder text)).Ensures (fun _ _ => True)
          Unreadable rows := by
        refine Program.ensures_ofExcept (fun _ _ => trivial) fun error refused => ?_
        unfold decodeStored at refused
        split at refused
        · cases refused
        · next fault unread =>
            split at refused
            · cases refused
            · cases refused
              exact .text member cell unread
      exact decoded.bind fun _ _ _ => trivial

theorem ensures_getList {α : Type} (decoder : Decoder α) (owner key : String)
    (last : List Row) :
    ((Store.mk mapping).getList decoder owner key).Ensures (fun _ _ => True) Unreadable
      last := by
  refine (ensures_getString maps owner key last).bind fun rows text? stands => ?_
  cases text? with
  | none => trivial
  | some text =>
      obtain ⟨row, member, cell⟩ := stands text rfl
      refine Program.ensures_ofExcept (fun _ _ => trivial) fun error refused => ?_
      obtain ⟨fault, unread, rfl⟩ := Outcome.mapError_eq_error_iff.mp refused
      exact .text member cell unread

/-- By itself, a call of a store for a mapping of all fields fails only on rows that cannot be
read. -/
theorem IsCall.ensures {α : Type} {program : Program α}
    (call : (Store.mk mapping).IsCall program) (last : List Row) :
    program.Ensures (fun _ _ => True) Unreadable last := by
  cases call with
  | ensureTable => exact ensures_ensureTable maps last
  | getString owner key =>
      exact (ensures_getString maps owner key last).mono fun _ _ _ => trivial
  | contains owner key =>
      refine ensures_rows maps ?_ fun rows => trivial
      exact List.cons_ne_nil _ _
  | delete owner key => exact ensures_delete maps owner key last
  | purge owner =>
      refine ensures_affected maps ?_ last
      trivial
  | setValue owner key value => exact ensures_setValue maps owner key value last
  | setString owner key text? =>
      cases text? with
      | none => exact (ensures_delete maps owner key last).bind fun _ _ _ => trivial
      | some text => exact ensures_setValue maps owner key _ last
  | setObject owner key document => exact ensures_setValue maps owner key _ last
  | setList owner key elements? => exact ensures_setList maps owner key elements? last
  | setStringList owner key texts? => exact ensures_setList maps owner key _ last
  | keys owner =>
      refine ensures_rows maps ?_ fun rows => trivial
      exact List.cons_ne_nil _ _
  | find field pattern anchoring => exact ensures_find maps field pattern anchoring last
  | entries owner => exact ensures_find maps _ _ _ last
  | getValue decoder owner key => exact ensures_getValue maps decoder owner key last
  | getInt64 owner key => exact ensures_getValue maps _ owner key last
  | getDouble owner key => exact ensures_getValue maps _ owner key last
  | getBool owner key => exact ensures_getValue maps _ owner key last
  | getList decoder owner key => exact ensures_getList maps decoder owner key last
  | getStringList owner key => exact ensures_getList maps _ owner key last

end Calls

/-- Where a call of a store fails, the last statement that it sent has failed with the same error,
or the rows of the last reply cannot be read, and all earlier statements have succeeded. -/
theorem errors_come_from_replies {mapping : Mapping} {store : Store}
    (made : ofMapping mapping = .ok store) {α : Type} {program : Program α}
    (call : store.IsCall program) {σ : Type} (executor : Executor σ) (state : σ) {error : Error}
    (failed : (program.run executor state).1 = .error error) :
    ∃ earlier last, program.log executor state = earlier ++ [last] ∧
      (∀ exchange ∈ earlier, exchange.failure? = none) ∧
      (last.failure? = some error ∨
        last.failure? = none ∧ Unreadable last.rows error ∧
          ∃ reason, error = .deserialization reason) := by
  obtain ⟨maps, rfl⟩ := (ofMapping_yields mapping).of_ok made
  have explained := (call.ensures maps []).explained failed
  rcases explained.exists_last with ⟨_, unreadable⟩ | ⟨earlier, last, log, succeeded, ends⟩
  · -- Nothing has been replied yet, so there is no row that could not be read.
    cases unreadable with
    | row member _ => cases member
    | text member _ _ => cases member
  · refine ⟨earlier, last, log, succeeded, ends.imp_right fun ⟨answered, unreadable⟩ => ?_⟩
    exact ⟨answered, unreadable, unreadable.exists_reason⟩

theorem errors_come_from_replies_sample :
    ∃ earlier last,
      ((Store.mk Mapping.sample).entries "u").log Transcript.executor
        (.ofReplies [.rows [[some "u", some "k", none, none], [some "u"]]]) =
        earlier ++ [last] ∧
      (∀ exchange ∈ earlier, exchange.failure? = none) ∧
      (last.failure? = some (.deserialization "Row has no cell at position 1") ∨
        last.failure? = none ∧
          Unreadable last.rows (.deserialization "Row has no cell at position 1") ∧
          ∃ reason,
            Error.deserialization "Row has no cell at position 1" = .deserialization reason) :=
  have made : ofMapping Mapping.sample = .ok (Store.mk Mapping.sample) := rfl
  errors_come_from_replies made (.entries "u") Transcript.executor
    (.ofReplies [.rows [[some "u", some "k", none, none], [some "u"]]]) rfl

end EntryStore.Store
