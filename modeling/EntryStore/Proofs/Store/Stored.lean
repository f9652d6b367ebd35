import EntryStore.Proofs.Store.Frames
import EntryStore.Store.Typed

/-!
# What is read of a stored value

A value that has been stored under a pair is shown as its text, on every table that has the columns
of the value and primary columns of its own for each field.  Typed reading decodes that text,
whatever the table held before.
-/

namespace EntryStore

open Sql (Connection Database PatternMeaning Refines Table)
open Identifier (NormalForm)
open Regex (Takes matcher? meaning?)
open Json (Decoder)

/-- A table shows what is stored in it: the columns of the value are there, no two fields have the
same primary column, and all rows have all cells. -/
structure Layout.Shows (layout : Layout) (table : Table) : Prop where
  value : ∀ column ∈ layout.columnsOf .value, table.Has column
  apart : ∀ field other, table.positionOf (layout.primaryOf field) =
    table.positionOf (layout.primaryOf other) → field = other
  filled : ∀ row ∈ table.rows, row.length = table.columns.length

namespace Store

variable {α : Type} {owner key : String}

/-- Reading a value decodes the text that is read, over any executor. -/
theorem run_getValue_of_text {σ : Type} {executor : Executor σ} {store : Store} {state after : σ}
    {text : String}
    (read : (store.getString owner key).run executor state = (.ok (some text), after))
    (decoder : Decoder α) :
    (store.getValue decoder owner key).run executor state =
      ((decodeStored decoder text).map some, after) := by
  change (Program.bind (store.getString owner key) _).run _ _ = _
  rw [Program.run_bind, read]
  change (Program.bind (.ofExcept (decodeStored decoder text)) _).run _ _ = _
  rw [Program.run_bind, Program.run_ofExcept]
  cases decodeStored decoder text <;> rfl

section Stored

variable {mapping : Mapping} (maps : ∀ field, mapping.layout.Maps field) (sound : mapping.Sound)
  {table : Table} {before after : Connection}
  (found : before.database.find? mapping.table = some table) (shows : mapping.layout.Shows table)
  {meaning : PatternMeaning} (refines : Refines meaning meaning?)
  (ownerTaken : Takes meaning owner) (keyTaken : Takes meaning key) {value : Value}
  (stored : ((Store.mk mapping).setValue owner key value).run (Connection.executor meaning)
    before = (.ok (), after))
include maps sound found shows refines ownerTaken keyTaken stored

/-- The text of a value that has been stored is what is read. -/
theorem run_getString_of_setValue :
    ((Store.mk mapping).getString owner key).run (Connection.executor meaning) after =
      (.ok (some value.parameter), after) := by
  have stores : (Call.setValue owner key value).stores? = some (owner, key, value) := rfl
  obtain ⟨isOpen, has, left⟩ := of_stores maps sound found refines stores
    (run_finish stored fun _ => Answer.done)
  have stillOpen : after.isOpen = true := left ▸ isOpen
  have foundAfter : after.database.find? mapping.table = some { table with
      rows := mapping.layout.storeRows table owner key value.parameter table.rows } :=
    left ▸ Database.find?_replace found _
  rw [getString_of_has maps sound stillOpen foundAfter has shows.value ownerTaken keyTaken]
  exact congrArg (fun read => (Except.ok read, after))
    (Layout.find?_storeRows ⟨has, shows.apart⟩ shows.filled owner key value.parameter)

/-- The text of a value that has been stored is what a value is decoded from. -/
theorem run_getValue_of_setValue (decoder : Decoder α) :
    ((Store.mk mapping).getValue decoder owner key).run (Connection.executor meaning) after =
      ((decodeStored decoder value.parameter).map some, after) :=
  run_getValue_of_text
    (run_getString_of_setValue maps sound found shows refines ownerTaken keyTaken stored) decoder

end Stored

/-- Whenever a value has been stored under a pair, in a table that shows what is stored, reading the
pair has an outcome and changes nothing.  Patterns may be refused as long as those of owner and key
are taken, as the program's own limit takes all that are short enough. -/
def Recalls (value : Value) (read : Store → String → String → Program α)
    (outcome : Except Error α) : Prop :=
  ∀ ⦃normalize : String → String⦄, NormalForm normalize →
    ∀ ⦃mapping : Mapping⦄, mapping.Checked normalize →
    ∀ ⦃store : Store⦄, ofMapping mapping = .ok store →
    ∀ ⦃table : Table⦄ ⦃before after : Connection⦄,
      before.database.find? mapping.table = some table → mapping.layout.Shows table →
    ∀ ⦃meaning : PatternMeaning⦄, Refines meaning meaning? →
    ∀ ⦃owner key : String⦄, Takes meaning owner → Takes meaning key →
      (store.setValue owner key value).run (Connection.executor meaning) before = (.ok (), after) →
      (read store owner key).run (Connection.executor meaning) after = (outcome, after)

theorem shows_sample : Mapping.sample.layout.Shows Query.sampleTable := by
  refine ⟨by decide, fun field other => ?_, by decide⟩
  cases field <;> cases other <;> decide

/-- A value is stored in the sample table. -/
def storeSample (value : Value) : Except Error Unit × Connection :=
  ((Store.mk Mapping.sample).setValue "u1" "k1" value).run (Connection.executor matcher?)
    (.of ⟨[Query.sampleTable]⟩)

/-- What is recalled of a value that has been stored in the sample table. -/
theorem Recalls.on_sample {value : Value} {read : Store → String → String → Program α}
    {outcome : Except Error α} (recalls : Recalls value read outcome)
    (stored : (storeSample value).1 = .ok ()) :
    (read (Store.mk Mapping.sample) "u1" "k1").run (Connection.executor matcher?)
      (storeSample value).2 = (outcome, (storeSample value).2) :=
  recalls Identifier.normalForm_id Mapping.checked_sample rfl rfl shows_sample
    Sql.matcher?_refines (Regex.takes_matcher? (by decide))
    (Regex.takes_matcher? (by decide)) (Prod.ext stored rfl)

/-- What is decoded from the text of a value is what is recalled of it. -/
theorem recalls_of_decodeStored {value : Value} {decoder : Decoder α} {outcome : Except Error α}
    (decoded : decodeStored decoder value.parameter = outcome) :
    Recalls value (fun store => store.getValue decoder) (outcome.map some) := by
  intro normalize laws mapping checked store made table before after found shows meaning refines
    owner key ownerTaken keyTaken stored
  obtain ⟨maps, rfl⟩ := (ofMapping_yields mapping).of_ok made
  rw [← decoded]
  exact run_getValue_of_setValue maps (checked.sound laws) found shows refines ownerTaken keyTaken
    stored decoder

/-- What is decoded as JSON is decoded from stored text. -/
theorem decodeStored_of_decode {decoder : Decoder α} {text : String} {value : α}
    (decoded : decoder.decode text = .ok value) : decodeStored decoder text = .ok value := by
  rw [decodeStored, decoded]

end Store

end EntryStore
