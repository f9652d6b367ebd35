import EntryStore.Proofs.Json.Spelling
import EntryStore.Proofs.Store.Stored
import EntryStore.Proofs.Store.Usability

/-!
# Plain text read as a string

A text that has been stored is read back as it is, unless it is read as a string and happens to
be the JSON text of one: JSON is tried first, so that the string is what is read then.
-/

namespace EntryStore.Store

open Sql (Connection Table)
open Identifier (NormalForm)
open Json (Decoder)
open Regex (matcher? maxLiteral)

/-- The string that a text holds is decoded from it. -/
theorem decodeStored_string_of_holds {text content : String}
    (holds : Json.Holds (.string content) text) : decodeStored .string text = .ok content := by
  rw [decodeStored, Json.decode_string_iff.mpr holds]

/-- A text that holds no string stands for itself. -/
theorem decodeStored_string_of_plain {text : String}
    (plain : ∀ content, ¬ Json.Holds (.string content) text) :
    decodeStored .string text = .ok text := by
  rw [decodeStored]
  cases decoded : Decoder.string.decode text with
  | ok content => exact absurd (Json.decode_string_iff.mp decoded) (plain content)
  | error fault => rfl

/-- A text that has been stored is read back as it is.  Read as a string, it is itself where it
holds no JSON string, as any text that does not begin with a quote.  Where it holds one, this
other string is read. -/
theorem stored_text_reads_as_string {normalize : String → String} (laws : NormalForm normalize)
    {mapping : Mapping} (checked : mapping.Checked normalize) {store : Store}
    (made : ofMapping mapping = .ok store) {table : Table} {before after : Connection}
    (found : before.database.find? mapping.table = some table) (shows : mapping.layout.Shows table)
    {owner key text : String} (ownerShort : owner.utf8ByteSize ≤ maxLiteral)
    (keyShort : key.utf8ByteSize ≤ maxLiteral)
    (stored : (store.setString owner key (some text)).run (Connection.executor matcher?) before =
      (.ok (), after)) :
    (store.getString owner key).run (Connection.executor matcher?) after =
        (.ok (some text), after) ∧
      ((∀ content, ¬ Json.Holds (.string content) text) →
        (store.getValue .string owner key).run (Connection.executor matcher?) after =
          (.ok (some text), after)) ∧
      ((Json.skipSpace text.toList).head? ≠ some '"' →
        (store.getValue .string owner key).run (Connection.executor matcher?) after =
          (.ok (some text), after)) ∧
      ∀ content, Json.Holds (.string content) text → content ≠ text ∧
        (store.getValue .string owner key).run (Connection.executor matcher?) after =
          (.ok (some content), after) := by
  obtain ⟨maps, rfl⟩ := (ofMapping_yields mapping).of_ok made
  have sound := checked.sound laws
  have ownerTaken := Regex.takes_matcher? ownerShort
  have keyTaken := Regex.takes_matcher? keyShort
  have typed := run_getValue_of_setValue maps sound found shows Sql.matcher?_refines ownerTaken
    keyTaken stored Decoder.string
  have itself : (∀ content, ¬ Json.Holds (.string content) text) →
      ((Store.mk mapping).getValue .string owner key).run (Connection.executor matcher?) after =
        (.ok (some text), after) := by
    intro plain
    rw [typed, Value.parameter, decodeStored_string_of_plain plain]
    rfl
  refine ⟨run_getString_of_setValue maps sound found shows Sql.matcher?_refines ownerTaken keyTaken
    stored, itself, ?_, ?_⟩
  · intro unquoted
    exact itself fun content holds => unquoted (Json.head?_of_holds_string holds)
  · intro content holds
    refine ⟨?_, ?_⟩
    · rintro rfl
      exact Nat.lt_irrefl _ (Json.length_lt_of_holds_string holds)
    · rw [typed, Value.parameter, decodeStored_string_of_holds holds]
      rfl

theorem stored_text_reads_as_string_sample :
    (∃ after, ((Store.mk Mapping.sample).setString "u1" "k1" (some " 007")).run
        (Connection.executor matcher?) (.of ⟨[Query.sampleTable]⟩) = (.ok (), after) ∧
      ((Store.mk Mapping.sample).getValue .string "u1" "k1").run (Connection.executor matcher?)
        after = (.ok (some " 007"), after)) ∧
    ∃ after, ((Store.mk Mapping.sample).setString "u9" "k1" (some "\"plain\" ")).run
        (Connection.executor matcher?) (.of ⟨[Query.sampleTable]⟩) = (.ok (), after) ∧
      ((Store.mk Mapping.sample).getString "u9" "k1").run (Connection.executor matcher?)
        after = (.ok (some "\"plain\" "), after) ∧
      ((Store.mk Mapping.sample).getValue .string "u9" "k1").run (Connection.executor matcher?)
        after = (.ok (some "plain"), after) := by
  have ownerShort : ∀ owner ∈ ["u1", "u9"], owner.utf8ByteSize ≤ maxLiteral := by decide
  have keyShort : "k1".utf8ByteSize ≤ maxLiteral := by decide
  have updated : ((Store.mk Mapping.sample).setString "u1" "k1" (some " 007")).run
      (Connection.executor matcher?) (.of ⟨[Query.sampleTable]⟩) = (.ok (), _) :=
    Prod.ext (by decide +kernel) rfl
  have inserted : ((Store.mk Mapping.sample).setString "u9" "k1" (some "\"plain\" ")).run
      (Connection.executor matcher?) (.of ⟨[Query.sampleTable]⟩) = (.ok (), _) :=
    Prod.ext (by decide +kernel) rfl
  have holds : Json.Holds (.string "plain") "\"plain\" " :=
    Json.decode_string_iff.mp (by rfl)
  obtain ⟨_, _, number, _⟩ := stored_text_reads_as_string Identifier.normalForm_id
    Mapping.checked_sample rfl rfl shows_sample (ownerShort "u1" (by decide)) keyShort updated
  obtain ⟨quoted, _, _, string⟩ := stored_text_reads_as_string Identifier.normalForm_id
    Mapping.checked_sample rfl rfl shows_sample (ownerShort "u9" (by decide)) keyShort inserted
  exact ⟨⟨_, updated, number (by decide)⟩, _, inserted, quoted, (string "plain" holds).2⟩

/-- A table with the primary columns of `Mapping.sample`, but not with the further one of its
value. -/
def primaryOnly : Table :=
  { Query.sampleTable with columns := Query.sampleTable.columns.take 3, rows := [] }

/-- What is read as a string where a text has just been stored in a table. -/
def storedAndRead (mapping : Mapping) (table : Table) (owner key text : String) :
    Except Error (Option String) :=
  ((((Store.mk mapping).setString owner key (some text)).bind fun _ =>
    (Store.mk mapping).getValue .string owner key).run (Connection.executor matcher?)
      (.of ⟨[table]⟩)).1

/-- The JSON text of a string is read as that string.  A table in which owner and value are one
column shows the owner, a table that lacks a further column of the value takes a text but does
not show it, and so does an empty table with an owner that is too long to be looked for. -/
theorem stored_text_read_as_another :
    (Mapping.sample.Checked id ∧
      storedAndRead Mapping.sample Query.sampleTable "u1" "k1" "\"plain\"" =
        .ok (some "plain")) ∧
      (oneColumn.Checked id ∧
        storedAndRead oneColumn ⟨"meta", [⟨"a", true⟩, ⟨"b", true⟩], []⟩ "u" "k" "v" =
          .ok (some "u")) ∧
      ((((Store.mk Mapping.sample).setString "u" "k" (some "v")).run
          (Connection.executor matcher?) (.of ⟨[primaryOnly]⟩)).1 = .ok () ∧
        storedAndRead Mapping.sample primaryOnly "u" "k" "v" =
          .error (Sql.Refusal.noColumn "type").toFailure.toError) ∧
      (((Store.mk Mapping.sample).setString longOwner "k" (some "v")).run
          (Connection.executor matcher?) (.of ⟨[freshTable Mapping.sample]⟩)).1 = .ok () ∧
        storedAndRead Mapping.sample (freshTable Mapping.sample) longOwner "k" "v" =
          .error Sql.Refusal.malformedPattern.toFailure.toError := by
  have usable : Mapping.sample.Usable := Mapping.separate_sample
  refine ⟨⟨Mapping.checked_sample, by decide +kernel⟩, ⟨?_, by decide +kernel⟩,
    ⟨by decide +kernel, by decide +kernel⟩, ?_⟩
  · exact ⟨⟨oneColumn.table, oneColumn.columns⟩, by decide +kernel⟩
  · obtain ⟨after, written, read⟩ := (holds_stored usable []).run_getString_of_long
      (Mapping.checked_sample.sound Identifier.normalForm_id) usable maxLiteral_lt_longOwner "k"
      (.text "v")
    change ((Store.mk Mapping.sample).setString longOwner "k" (some "v")).run _
      (Connection.of ⟨[freshTable Mapping.sample]⟩) = _ at written
    refine ⟨congrArg Prod.fst written, ?_⟩
    rw [storedAndRead, Program.run_bind, written]
    change ((((Store.mk Mapping.sample).getString longOwner "k").bind _).run _ _).1 = _
    rw [Program.run_bind, read]

end EntryStore.Store
