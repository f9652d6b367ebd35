import EntryStore.Proofs.Json.Typed
import EntryStore.Proofs.Store.Usability
import EntryStore.Store.Typed

/-!
# What is stored is read back

A value that has been stored under a pair is read as it was by the decoder of its kind,
whatever the table held before and whatever the texts of the value look like.  Owner and key are
looked for as patterns, and have to be short enough for these.
-/

namespace EntryStore.Store

open Sql (Connection Database PatternMeaning)
open Regex (Takes matcher? maxLiteral)
open Identifier (NormalForm)
open Json (Decoder Kind)

variable {α : Type} {meaning : PatternMeaning} {mapping : Mapping} {rows : List Row}
  {connection : Connection}

/-- A program succeeds, and another one that runs after it answers a result and changes nothing. -/
def ReadsBack (meaning : PatternMeaning) (connection : Connection) (write : Program Unit)
    (read : Program α) (result : α) : Prop :=
  ∃ after, write.run (Connection.executor meaning) connection = (.ok (), after) ∧
    read.run (Connection.executor meaning) after = (.ok result, after)

section Store

variable {owner key : String} (sound : mapping.Sound) (separate : mapping.Separate)
  (ownerTaken : Takes meaning owner) (keyTaken : Takes meaning key)
include sound separate ownerTaken keyTaken

/-- The text stored for a pair, if any, decides what is read under the pair. -/
theorem ReadsBack.of_text {write : Program Unit} {after : Connection} {others : List Row}
    (written : write.run (Connection.executor meaning) connection = (.ok (), after))
    (holds : Holds mapping others after) {text? : Option String}
    (text : (others.find? (mapping.layout.isAt (freshTable mapping) owner key)).bind
      (mapping.layout.cells (freshTable mapping) · .value) = text?)
    {next : Option String → Program α} {result : α} (answers : next text? = .done result) :
    ReadsBack meaning connection write (((Store.mk mapping).getString owner key).bind next)
      result := by
  refine ⟨after, written, ?_⟩
  rw [Program.run_bind, holds.run_getString sound separate ownerTaken keyTaken, text]
  simp only [answers, Program.run]

variable (holds : Holds mapping rows connection)
include holds

theorem setValue_getValue {decoder : Decoder α} {value : Value} {result : α}
    (decoded : decoder.decode value.parameter = .ok result) :
    ReadsBack meaning connection ((Store.mk mapping).setValue owner key value)
      ((Store.mk mapping).getValue decoder owner key) (some result) := by
  obtain ⟨written, held⟩ := holds.run_setValue sound separate ownerTaken keyTaken value
  refine .of_text sound separate ownerTaken keyTaken written held
    (find?_storeRows separate holds.admissible owner key value.parameter) ?_
  simp only [decodeStored, decoded]
  rfl

theorem setValue_getList {decoder : Decoder α} {value : Value} {results : List α}
    (decoded : decoder.list.decode value.parameter = .ok results) :
    ReadsBack meaning connection ((Store.mk mapping).setValue owner key value)
      ((Store.mk mapping).getList decoder owner key) results := by
  obtain ⟨written, held⟩ := holds.run_setValue sound separate ownerTaken keyTaken value
  refine .of_text sound separate ownerTaken keyTaken written held
    (find?_storeRows separate holds.admissible owner key value.parameter) ?_
  simp only [decodeJson, decoded]
  rfl

theorem setList_none_getList (decoder : Decoder α) :
    ReadsBack meaning connection ((Store.mk mapping).setList owner key none)
      ((Store.mk mapping).getList decoder owner key) [] := by
  obtain ⟨counts, held⟩ := holds.delete_pair sound separate ownerTaken keyTaken
  exact .of_text sound separate ownerTaken keyTaken (run_finish counts.run fun _ => ()) held
    (congrArg (Option.bind · (mapping.layout.cells (freshTable mapping) · .value))
      (find?_remove owner key)) rfl

end Store

/-- A value that has been stored is read back: as an object of its kind, as an integer or truth
value, or as a list; and a list that has been removed is read as the empty list. -/
theorem values_read_back {normalize : String → String} (laws : NormalForm normalize)
    (checked : mapping.Checked normalize) {store : Store} (made : ofMapping mapping = .ok store)
    (plain : ∀ column ∈ mapping.layout.allColumns, Sql.isQualified column = false)
    (distinct : (mapping.layout.allColumns.map Sql.foldName).Nodup)
    (here : Database.IsHere mapping.table) (holds : Holds mapping rows connection)
    {owner key : String} (ownerShort : owner.utf8ByteSize ≤ maxLiteral)
    (keyShort : key.utf8ByteSize ≤ maxLiteral) :
    (∀ (kind : Kind) (value : kind.Carrier), kind.Fits 127 value →
        ReadsBack matcher? connection (store.setObject owner key (kind.toJson value))
          (store.getValue kind.decoder owner key) (some value)) ∧
      (∀ n : Int64, ReadsBack matcher? connection (store.setValue owner key (.integer n))
        (store.getInt64 owner key) (some n)) ∧
      (∀ truth : Bool, ReadsBack matcher? connection (store.setValue owner key (.bool truth))
        (store.getBool owner key) (some truth)) ∧
      (∀ (kind : Kind) (values : List kind.Carrier), (∀ value ∈ values, kind.Fits 126 value) →
        ReadsBack matcher? connection (store.setList owner key (some (values.map kind.toJson)))
          (store.getList kind.decoder owner key) values) ∧
      (∀ texts : List String, ReadsBack matcher? connection
        (store.setStringList owner key (some texts)) (store.getStringList owner key) texts) ∧
      (∀ kind : Kind, ReadsBack matcher? connection (store.setList owner key none)
        (store.getList kind.decoder owner key) []) ∧
      ReadsBack matcher? connection (store.setStringList owner key none)
        (store.getStringList owner key) [] := by
  obtain ⟨maps, rfl⟩ := (ofMapping_yields mapping).of_ok made
  have sound := checked.sound laws
  have separate : mapping.Separate := ⟨maps, plain, distinct, here⟩
  have ownerTaken := Regex.takes_matcher? ownerShort
  have keyTaken := Regex.takes_matcher? keyShort
  have lists : ∀ (kind : Kind) (values : List kind.Carrier),
      (∀ value ∈ values, kind.Fits 126 value) →
      kind.decoder.list.decode (Value.json (.array (values.map kind.toJson))).parameter =
        .ok values :=
    fun kind values inside => (Kind.list kind).decode_print values (Kind.fits_list inside)
  have object : ∀ (kind : Kind) (value : kind.Carrier), kind.Fits 127 value →
      kind.decoder.decode (Value.json (kind.toJson value)).parameter = .ok value :=
    fun kind value fits => kind.decode_print value fits
  have integer : ∀ n : Int64, Decoder.int64.decode (Value.integer n).parameter = .ok n :=
    fun n => Kind.int64.decode_print n trivial
  have bool : ∀ truth : Bool, Decoder.bool.decode (Value.bool truth).parameter = .ok truth :=
    fun truth => Kind.bool.decode_print truth trivial
  refine ⟨fun kind value fits => ?_, fun n => ?_, fun truth => ?_, fun kind values fits => ?_,
    fun texts => ?_, fun kind => ?_, ?_⟩
  · exact setValue_getValue sound separate ownerTaken keyTaken holds (object kind value fits)
  · exact setValue_getValue sound separate ownerTaken keyTaken holds (integer n)
  · exact setValue_getValue sound separate ownerTaken keyTaken holds (bool truth)
  · exact setValue_getList sound separate ownerTaken keyTaken holds (lists kind values fits)
  · exact setValue_getList sound separate ownerTaken keyTaken holds
      (lists .string texts fun _ _ => trivial)
  · exact setList_none_getList sound separate ownerTaken keyTaken holds kind.decoder
  · exact setList_none_getList sound separate ownerTaken keyTaken holds .string

theorem values_read_back_sample :
    ReadsBack matcher? (stored Mapping.sample [⟨"u", "k", "old"⟩, ⟨"u", "other", "1"⟩])
        ((Store.mk Mapping.sample).setObject "u" "k" (.string "[\"null\\u0000\"]\n\u00e9"))
        ((Store.mk Mapping.sample).getValue .string "u" "k")
        (some "[\"null\\u0000\"]\n\u00e9") ∧
      ReadsBack matcher? (stored Mapping.sample [⟨"u", "k", "old"⟩, ⟨"u", "other", "1"⟩])
        ((Store.mk Mapping.sample).setObject "u" "k"
          (.object [("", .array []), ("n", .integer 18446744073709551615)]))
        ((Store.mk Mapping.sample).getValue .json "u" "k")
        (some (.object [("", .array []), ("n", .integer 18446744073709551615)])) ∧
      ReadsBack matcher? (stored Mapping.sample [⟨"u", "k", "old"⟩, ⟨"u", "other", "1"⟩])
        ((Store.mk Mapping.sample).setList "u" "k" (some [.integer (-9223372036854775808)]))
        ((Store.mk Mapping.sample).getList .int64 "u" "k") [-9223372036854775808] := by
  have separate := Mapping.separate_sample
  obtain ⟨objects, _, _, lists, _⟩ := values_read_back Identifier.normalForm_id
    Mapping.checked_sample rfl separate.plain separate.distinct separate.here
    (holds_stored separate [⟨"u", "k", "old"⟩, ⟨"u", "other", "1"⟩])
    (by decide : "u".utf8ByteSize ≤ maxLiteral) (by decide : "k".utf8ByteSize ≤ maxLiteral)
  have within : Json.Within 127
      (.object [("", .array []), ("n", .integer 18446744073709551615)]) := by decide
  exact ⟨objects .string _ trivial, objects .json _ within,
    lists .int64 [-9223372036854775808] fun _ _ => trivial⟩

/-- A value can be stored in an empty table under an owner that is too long, and is not read back.
Columns of different names do not make a table if they differ in case only or one of them is
written with a schema, or if the table is in a schema that is not there. -/
theorem values_not_read_back :
    (Mapping.sample.Checked id ∧ Mapping.sample.layout.allColumns.Nodup ∧
      ofMapping Mapping.sample = .ok ⟨Mapping.sample⟩ ∧
      (Store.mk Mapping.sample).ensureTable.run (Connection.executor matcher?)
          (Connection.of .empty) = (.ok (), stored Mapping.sample []) ∧
      ∃ after, ((Store.mk Mapping.sample).setObject longOwner "k" (.integer 1)).run
          (Connection.executor matcher?) (stored Mapping.sample []) = (.ok (), after) ∧
        ((Store.mk Mapping.sample).getValue .int64 longOwner "k").run
          (Connection.executor matcher?) after =
            (.error Sql.Refusal.malformedPattern.toFailure.toError, after)) ∧
    ∀ mapping ∈ [casedColumns, pointedColumn, strangeSchema],
      mapping.Checked id ∧ mapping.layout.allColumns.Nodup ∧ ofMapping mapping = .ok ⟨mapping⟩ ∧
        ∃ refusal : Sql.Refusal, creation mapping = [.error refusal.toFailure.toError] := by
  constructor
  · have separate := Mapping.separate_sample
    have sound : Mapping.sample.Sound := Mapping.checked_sample.sound Identifier.normalForm_id
    obtain ⟨after, written, read⟩ := (holds_stored separate []).run_getString_of_long sound
      separate maxLiteral_lt_longOwner "k" (.json (.integer 1))
    refine ⟨Mapping.checked_sample, by decide, rfl, run_ensureTable_empty sound separate, after,
      written, ?_⟩
    change (((Store.mk Mapping.sample).getString longOwner "k").bind _).run _ _ = _
    rw [Program.run_bind, read]
  · simp only [List.forall_mem_cons]
    exact ⟨⟨checked_casedColumns, by decide, rfl, _, creation_casedColumns⟩,
      ⟨checked_pointedColumn, by decide, rfl, _, creation_pointedColumn⟩,
      ⟨checked_strangeSchema, by decide, rfl, _, creation_strangeSchema⟩, List.forall_mem_nil _⟩

end EntryStore.Store
