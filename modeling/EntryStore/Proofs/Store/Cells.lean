import EntryStore.Proofs.Query.Shape
import EntryStore.Proofs.Store.Refinement

/-!
# Reading entries off rows

The statement of a search shows the columns of all fields, however many each field has, and the
primary column of a field stands behind all columns of the fields in front of it.  `find` looks
there: `Layout.ShowsEntry` says which entry a row is, `Layout.rowFault?` why it is none.
-/

namespace EntryStore

open Outcome (Reports)
open Sql (Prepared Statement Term)
open Store (RowFault cell requiredCell entryOfRow offsets)

namespace Layout

variable {layout : Layout} {row : Row} {position : Nat} {field : Field}

/-- A row shows an entry in the cells of the primary columns; the value may be missing. -/
structure ShowsEntry (layout : Layout) (row : Row) (entry : Entry) : Prop where
  owner : row[layout.offsetOf .owner]? = some (some entry.owner)
  key : row[layout.offsetOf .key]? = some (some entry.key)
  value : row[layout.offsetOf .value]? = some entry.value

/-- A row has a cell for each primary column, and those of owner and key are not NULL. -/
structure Readable (layout : Layout) (row : Row) : Prop where
  long : ∀ field, layout.offsetOf field < row.length
  owner : row[layout.offsetOf .owner]? ≠ some none
  key : row[layout.offsetOf .key]? ≠ some none

/-- The fault of a row that has no cell at a position. -/
def cellFault? (row : Row) (position : Nat) : Option RowFault :=
  if position < row.length then none else some (.noCell position)

/-- The fault of a row that has no text at the position of a field. -/
def textFault? (row : Row) (position : Nat) (field : Field) : Option RowFault :=
  (cellFault? row position).or (if row[position]? = some none then some (.null field) else none)

/-- Why a row shows no entry: the first fault at the positions of owner, key and value. -/
def rowFault? (layout : Layout) (row : Row) : Option RowFault :=
  (textFault? row (layout.offsetOf .owner) .owner).or
    ((textFault? row (layout.offsetOf .key) .key).or (cellFault? row (layout.offsetOf .value)))

theorem cell_reports (row : Row) (position : Nat) :
    Reports (cell row position) (cellFault? row position) := by
  unfold cell cellFault?
  split
  · next content found =>
      rw [if_pos (List.getElem?_eq_some_iff.mp found).1]
      exact .ok content
  · next missing =>
      rw [if_neg (Nat.not_lt.mpr (List.getElem?_eq_none_iff.mp missing))]
      exact .error _

theorem cell_eq_ok_iff {content : Option String} :
    cell row position = .ok content ↔ row[position]? = some content := by
  unfold cell
  cases row[position]? <;> simp

theorem requiredCell_reports (row : Row) (position : Nat) (field : Field) :
    Reports (requiredCell row position field) (textFault? row position field) := by
  refine (cell_reports row position).bind fun content found => ?_
  rw [cell_eq_ok_iff.mp found]
  cases content with
  | none => exact .error _
  | some text => exact .ok text

theorem requiredCell_eq_ok_iff {text : String} :
    requiredCell row position field = .ok text ↔ row[position]? = some (some text) := by
  unfold requiredCell
  rw [Outcome.bind_eq_ok_iff]
  constructor
  · rintro ⟨content, found, present⟩
    cases content with
    | none => cases present
    | some other =>
        cases present
        exact cell_eq_ok_iff.mp found
  · intro found
    exact ⟨some text, cell_eq_ok_iff.mpr found, rfl⟩

/-- A row is read as the entry that it shows. -/
theorem entryOfRow_eq_ok_iff {entry : Entry} :
    entryOfRow (layout.offsetOf .key) (layout.offsetOf .value) row = .ok entry ↔
      layout.ShowsEntry row entry := by
  unfold entryOfRow
  simp only [Outcome.bind_eq_ok_iff, requiredCell_eq_ok_iff, cell_eq_ok_iff]
  constructor
  · rintro ⟨owner, atOwner, key, atKey, value, atValue, same⟩
    cases same
    exact ⟨atOwner, atKey, atValue⟩
  · intro shows
    exact ⟨_, shows.owner, _, shows.key, _, shows.value, rfl⟩

theorem entryOfRow_reports (layout : Layout) (row : Row) :
    Reports (entryOfRow (layout.offsetOf .key) (layout.offsetOf .value) row)
      (layout.rowFault? row) :=
  (requiredCell_reports row 0 .owner).bind fun _ _ =>
    (requiredCell_reports row _ .key).bind fun _ _ => (cell_reports row _).bind_pure _

/-- A row without a fault is readable. -/
theorem rowFault?_eq_none_iff : layout.rowFault? row = none ↔ layout.Readable row := by
  simp only [rowFault?, textFault?, cellFault?, Option.or_eq_none_iff, ite_eq_left_iff,
    ite_eq_right_iff, reduceCtorEq, imp_false, not_not]
  constructor
  · rintro ⟨⟨ownerLong, owner⟩, ⟨keyLong, key⟩, valueLong⟩
    refine ⟨fun field => ?_, owner, key⟩
    cases field with
    | owner => exact ownerLong
    | key => exact keyLong
    | value => exact valueLong
  · intro readable
    exact ⟨⟨readable.long .owner, readable.owner⟩, ⟨readable.long .key, readable.key⟩,
      readable.long .value⟩

/-- In a row that is as wide as the projection no cell is missing. -/
theorem rowFault?_ne_noCell (maps : ∀ field, layout.Maps field)
    (wide : row.length = layout.allColumns.length) (position : Nat) :
    layout.rowFault? row ≠ some (.noCell position) := by
  have present : ∀ field, cellFault? row (layout.offsetOf field) = none := by
    intro field
    exact if_pos (wide ▸ offsetOf_lt (maps field))
  simp only [rowFault?, textFault?, present, Option.none_or, Option.or_none]
  split <;> split <;> simp

end Layout

namespace Store

/-- What is wrong with a cell is not mistaken for a missing one. -/
theorem toError_null_ne (field : Field) (position : Nat) :
    (RowFault.null field).toError ≠ (RowFault.noCell position).toError := by
  intro same
  have texts := congrArg String.toList (Error.deserialization.inj same)
  simp only [String.toList_append] at texts
  cases texts

/-- The result of reading entries off rows: each row is read as the entry that it shows, and if a
row is not readable, there is no entry at all but the fault of the first such row. -/
structure ReadsRows (layout : Layout) (rows : List Row) (result : Except Error (List Entry)) :
    Prop where
  shown : ∀ entries, result = .ok entries ↔ List.Forall₂ layout.ShowsEntry rows entries
  succeeds : (∃ entries, result = .ok entries) ↔ ∀ row ∈ rows, layout.Readable row
  fails : ∀ error, result = .error error ↔
    ∃ fault, rows.findSome? layout.rowFault? = some fault ∧ fault.toError = error
  wide : (∀ row ∈ rows, row.length = layout.allColumns.length) →
    ∀ position, result ≠ .error (RowFault.noCell position).toError

theorem readsRows {layout : Layout} (maps : ∀ field, layout.Maps field) (rows : List Row) :
    ReadsRows layout rows ((rows.mapM (entryOfRow (layout.offsetOf .key)
      (layout.offsetOf .value))).mapError RowFault.toError) := by
  have reported := Reports.mapM layout.entryOfRow_reports rows
  constructor
  · intro entries
    rw [Outcome.mapError_eq_ok_iff, Outcome.mapM_eq_ok_iff]
    simp only [Layout.entryOfRow_eq_ok_iff]
  · simp only [Outcome.mapError_eq_ok_iff, reported.exists_ok_iff, List.findSome?_eq_none_iff,
      Layout.rowFault?_eq_none_iff]
  · intro error
    rw [Outcome.mapError_eq_error_iff]
    exact exists_congr fun fault => and_congr_left fun _ => reported fault
  · intro wide position failed
    obtain ⟨fault, unread, same⟩ := Outcome.mapError_eq_error_iff.mp failed
    obtain ⟨row, member, found⟩ :=
      List.exists_of_findSome?_eq_some ((reported fault).mp unread)
    cases fault with
    | noCell missing => exact Layout.rowFault?_ne_noCell maps (wide row member) missing found
    | null field => exact toError_null_ne field position same

/-- The statement of a search: it shows all columns of the rows in which the primary column of
one field matches. -/
def searchStatement (mapping : Mapping) (field : Field) (pattern : String)
    (anchoring : Anchoring) : Prepared :=
  .of (.select mapping.layout.allColumns mapping.table [⟨.init, mapping.layout.primaryOf field⟩])
    [anchoring.anchor pattern]

theorem prepare_find {mapping : Mapping} (maps : ∀ field, mapping.layout.Maps field)
    (field : Field) (pattern : String) (anchoring : Anchoring) :
    (Store.mk mapping).prepare (Query.find field pattern anchoring) =
      .ok (searchStatement mapping field pattern anchoring) := by
  have asks : (Query.act (.select Field.all)
      ⟨[⟨field, .text (anchoring.anchor pattern), .init⟩]⟩).Asks := List.cons_ne_nil _ _
  rw [find_eq]
  exact prepare_eq_ok (Query.complete_of_maps maps asks)

/-- A search sends its statement and reads the rows of the reply. -/
theorem run_find {mapping : Mapping} (maps : ∀ field, mapping.layout.Maps field)
    (field : Field) (pattern : String) (anchoring : Anchoring) {σ : Type} {executor : Executor σ}
    {state after : σ} {rows : List Row}
    (fetched : executor.fetch (searchStatement mapping field pattern anchoring) state =
      (.ok rows, after)) :
    ((Store.mk mapping).find field pattern anchoring).run executor state =
      ((rows.mapM (entryOfRow (mapping.layout.offsetOf .key)
        (mapping.layout.offsetOf .value))).mapError RowFault.toError, after) := by
  have sent : ((Store.mk mapping).rows (Query.find field pattern anchoring)).run executor state =
      (.ok rows, after) := by
    rw [Store.rows, prepare_find maps, Program.run_rowsOf, fetched]
  refine (Program.run_bind executor _ _ state).trans ?_
  simp only [sent, offsets_eq maps]
  exact Program.run_ofExcept executor _ after

/-- Whatever the number of columns of each field, a search selects them all, and reads the rows of
the reply where the primary columns are. -/
theorem find_reads_primary_cells {mapping : Mapping} {store : Store}
    (made : ofMapping mapping = .ok store) (field : Field) (pattern : String)
    (anchoring : Anchoring) :
    store.prepare (Query.find field pattern anchoring) =
        .ok (searchStatement mapping field pattern anchoring) ∧
      (∀ shown, mapping.layout.allColumns[mapping.layout.offsetOf shown]? =
        some (mapping.layout.primaryOf shown)) ∧
      ∀ {σ : Type} (executor : Executor σ) (state after : σ) (rows : List Row),
        executor.fetch (searchStatement mapping field pattern anchoring) state =
            (.ok rows, after) →
          ∃ result, (store.find field pattern anchoring).run executor state = (result, after) ∧
            ReadsRows mapping.layout rows result := by
  obtain ⟨maps, rfl⟩ := (ofMapping_yields mapping).of_ok made
  refine ⟨prepare_find maps field pattern anchoring,
    fun shown => Layout.getElem?_allColumns (maps shown), ?_⟩
  intro σ executor state after rows fetched
  exact ⟨_, run_find maps field pattern anchoring fetched, readsRows maps rows⟩

theorem find_reads_primary_cells_sample :
    ∃ result,
      ((Store.mk Mapping.sample).find .key "home" .start).run Transcript.executor
        (.ofReplies [.rows [[some "u", some "home", some "v", none], [none, some "homes"]]]) =
        (result, ⟨[], [.fetched
          ⟨"SELECT uuid, identifier, value, type FROM test WHERE identifier REGEXP ?;",
            ["^home"], 4⟩]⟩) ∧
      ReadsRows Mapping.sample.layout
        [[some "u", some "home", some "v", none], [none, some "homes"]] result :=
  have made : ofMapping Mapping.sample = .ok (Store.mk Mapping.sample) := rfl
  (find_reads_primary_cells made .key "home" .start).2.2 Transcript.executor
    (.ofReplies [.rows [[some "u", some "home", some "v", none], [none, some "homes"]]]) _ _ rfl

end Store

end EntryStore
