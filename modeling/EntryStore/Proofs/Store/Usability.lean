import EntryStore.Proofs.Store.Refused

/-!
# Mappings that share columns

A mapping may name a column several times, for one field or for several.  Its table has the column
once, and a store works on it as long as no two fields have the same primary column.  What the
names of a mapping are to each other is checked nowhere, so that there are mappings with stores
whose table cannot be created, or whose table does not keep what is stored.
-/

namespace EntryStore

open Sql (Connection Database)
open Regex (matcher? maxLiteral)
open Identifier (NormalForm)

namespace Store

/-- On a fresh database the table of a store can be created, and each text that is stored then is
read back, whatever calls come before and whatever these answer.  Fields may share columns, but have
primary columns of their own; no column is written with a schema, and columns of different names
differ in more than case. -/
theorem stored_text_read_back {normalize : String → String} (laws : NormalForm normalize)
    {mapping : Mapping} (checked : mapping.Checked normalize) {store : Store}
    (made : ofMapping mapping = .ok store)
    (plain : ∀ column ∈ mapping.layout.allColumns, Sql.isQualified column = false)
    (cased : ∀ column ∈ mapping.layout.allColumns, ∀ other ∈ mapping.layout.allColumns,
      Sql.foldName column = Sql.foldName other → column = other)
    (apart : ∀ field other,
      mapping.layout.primaryOf field = mapping.layout.primaryOf other → field = other)
    (here : Database.IsHere mapping.table) (calls : List Call) {owner key : String}
    (ownerShort : owner.utf8ByteSize ≤ maxLiteral) (keyShort : key.utf8ByteSize ≤ maxLiteral)
    (text : String) :
    ∃ earlier : List (Except Error Answer), earlier.length = calls.length ∧
      store.answers (Connection.executor matcher?)
          (.ensureTable :: (calls ++ [.setString owner key (some text), .getString owner key]))
          (Connection.of Database.empty) =
        .ok .done :: earlier ++ [.ok .done, .ok (.text (some text))] := by
  obtain ⟨maps, rfl⟩ := (ofMapping_yields mapping).of_ok made
  have sound := checked.sound laws
  have usable : mapping.Usable := ⟨maps, plain, cased, apart, here⟩
  have ownerTaken := Regex.takes_matcher? ownerShort
  have keyTaken := Regex.takes_matcher? keyShort
  obtain ⟨earlier, bindings, length, behind⟩ :=
    exists_stored_of_answers Sql.matcher?_refines sound usable Bindings.empty calls
  have written : ((Store.mk mapping).perform (.setString owner key (some text))).run
      (Connection.executor matcher?) (stored mapping bindings.list) =
        (.ok .done, stored mapping (bindings.bind owner key text).list) :=
    run_finish (run_setValue sound usable bindings ownerTaken keyTaken (.text text))
      fun _ => Answer.done
  have read : ((Store.mk mapping).perform (.getString owner key)).run
      (Connection.executor matcher?) (stored mapping (bindings.bind owner key text).list) =
        (.ok (.text (some text)), stored mapping (bindings.bind owner key text).list) := by
    have found := run_getString sound usable (bindings.bind owner key text) ownerTaken keyTaken
    rw [Bindings.lookup_bind, if_pos rfl] at found
    exact run_finish found Answer.text
  refine ⟨earlier, length, ?_⟩
  have last : (Store.mk mapping).answers (Connection.executor matcher?)
      [.setString owner key (some text), .getString owner key] (stored mapping bindings.list) =
        [.ok .done, .ok (.text (some text))] := by
    simp only [answers, written, read]
  rw [answers_ensureTable sound usable]
  exact congrArg (.ok .done :: ·) ((behind _).trans (congrArg (earlier ++ ·) last))

/-- The primary columns of owner and key serve other fields too. -/
def sharedColumns : Mapping :=
  ⟨"main.meta", ⟨some ["a", "b", "x"], some ["b", "a"], some ["c", "x", "c", "b"]⟩⟩

theorem stored_text_read_back_sample : ∃ earlier : List (Except Error Answer),
    earlier.length = 1 ∧
      (Store.mk sharedColumns).answers (Connection.executor matcher?)
          [.ensureTable, .setString "u" "k" (some "old"), .setString "u" "k" (some "new"),
            .getString "u" "k"] (Connection.of Database.empty) =
        .ok .done :: earlier ++ [.ok .done, .ok (.text (some "new"))] := by
  have checked : sharedColumns.Checked id :=
    ⟨⟨sharedColumns.table, sharedColumns.columns⟩, by decide +kernel⟩
  have apart : ∀ field other, sharedColumns.layout.primaryOf field =
      sharedColumns.layout.primaryOf other → field = other := by
    intro field other
    cases field <;> cases other <;> decide
  exact stored_text_read_back Identifier.normalForm_id checked rfl (by decide) (by decide) apart
    (by decide) [.setString "u" "k" (some "old")] (by decide : "u".utf8ByteSize ≤ maxLiteral)
    (by decide : "k".utf8ByteSize ≤ maxLiteral) "new"

/-! ## Mappings that do not work -/

/-- Owner and value have the same primary column. -/
def oneColumn : Mapping := ⟨"meta", ⟨some ["a"], some ["b"], some ["a"]⟩⟩

/-- Two columns differ in case only. -/
def casedColumns : Mapping := ⟨"meta", ⟨some ["a"], some ["b", "Extra"], some ["c", "extra"]⟩⟩

/-- A column is written with a schema. -/
def pointedColumn : Mapping := ⟨"meta", ⟨some ["a"], some ["b"], some ["main.c"]⟩⟩

/-- The table is in a schema that the database does not have. -/
def strangeSchema : Mapping := ⟨"other.meta", ⟨some ["a"], some ["b"], some ["c"]⟩⟩

theorem checked_casedColumns : casedColumns.Checked id :=
  ⟨⟨casedColumns.table, casedColumns.columns⟩, by decide +kernel⟩

theorem checked_pointedColumn : pointedColumn.Checked id :=
  ⟨⟨pointedColumn.table, pointedColumn.columns⟩, by decide +kernel⟩

theorem checked_strangeSchema : strangeSchema.Checked id :=
  ⟨⟨strangeSchema.table, strangeSchema.columns⟩, by decide +kernel⟩

/-- What is answered where the table of a mapping is to be created in a fresh database. -/
def creation (mapping : Mapping) : List (Except Error Answer) :=
  (Store.mk mapping).answers (Connection.executor matcher?) [.ensureTable]
    (Connection.of Database.empty)

theorem creation_casedColumns : creation casedColumns =
    [.error (Sql.Refusal.duplicateColumn "extra").toFailure.toError] := by
  decide +kernel

theorem creation_pointedColumn : creation pointedColumn =
    [.error (Sql.Refusal.syntaxNear ".").toFailure.toError] := by
  decide +kernel

theorem creation_strangeSchema : creation strangeSchema =
    [.error (Sql.Refusal.noSchema "other").toFailure.toError] := by
  decide +kernel

/-- In a new table a text can be stored under an owner that is too long to be looked for, and is
not found. -/
theorem answers_of_long {mapping : Mapping} (sound : mapping.Sound) (usable : mapping.Usable)
    {owner : String} (long : maxLiteral < owner.utf8ByteSize) (key text : String) :
    (Store.mk mapping).answers (Connection.executor matcher?)
        [.ensureTable, .setString owner key (some text), .getString owner key]
        (Connection.of Database.empty) =
      [.ok .done, .ok .done, .error Sql.Refusal.malformedPattern.toFailure.toError] := by
  obtain ⟨after, written, read⟩ := (holds_stored usable []).run_getString_of_long sound usable long
    key (.text text)
  have kept : ((Store.mk mapping).perform (.setString owner key (some text))).run
      (Connection.executor matcher?) (stored mapping []) = (.ok .done, after) :=
    run_finish written fun _ => Answer.done
  have refused : ((Store.mk mapping).perform (.getString owner key)).run
      (Connection.executor matcher?) after =
        (.error Sql.Refusal.malformedPattern.toFailure.toError, after) := by
    change (Program.bind _ _).run _ _ = _
    rw [Program.run_bind, read]
  rw [answers_ensureTable sound usable]
  simp only [answers, kept, refused]

/-- Stores exist for mappings of which the table cannot be created, or does not keep a text that
is stored.  Whatever the mapping, a text under an owner that is too long is not found. -/
theorem accepted_mappings_fail :
    (∀ mapping ∈ [oneColumn, casedColumns, pointedColumn, strangeSchema, Mapping.sample],
      mapping.Checked id ∧ ofMapping mapping = .ok ⟨mapping⟩) ∧
      (Store.mk oneColumn).answers (Connection.executor matcher?)
          [.ensureTable, .setString "u" "k" (some "v"), .getString "u" "k"]
          (Connection.of Database.empty) =
        [.ok .done, .ok .done, .ok (.text (some "u"))] ∧
      creation casedColumns = [.error (Sql.Refusal.duplicateColumn "extra").toFailure.toError] ∧
      creation pointedColumn = [.error (Sql.Refusal.syntaxNear ".").toFailure.toError] ∧
      creation strangeSchema = [.error (Sql.Refusal.noSchema "other").toFailure.toError] ∧
      (Store.mk Mapping.sample).answers (Connection.executor matcher?)
          [.ensureTable, .setString longOwner "k" (some "v"), .getString longOwner "k"]
          (Connection.of Database.empty) =
        [.ok .done, .ok .done, .error Sql.Refusal.malformedPattern.toFailure.toError] := by
  have separate := Mapping.separate_sample
  have sound : Mapping.sample.Sound := Mapping.checked_sample.sound Identifier.normalForm_id
  refine ⟨?_, by decide +kernel, creation_casedColumns, creation_pointedColumn,
    creation_strangeSchema, answers_of_long sound separate maxLiteral_lt_longOwner "k" "v"⟩
  simp only [List.forall_mem_cons]
  refine ⟨⟨⟨⟨oneColumn.table, oneColumn.columns⟩, by decide +kernel⟩, rfl⟩,
    ⟨checked_casedColumns, rfl⟩, ⟨checked_pointedColumn, rfl⟩, ⟨checked_strangeSchema, rfl⟩,
    ⟨Mapping.checked_sample, rfl⟩, ?_⟩
  exact List.forall_mem_nil _

end Store

end EntryStore
