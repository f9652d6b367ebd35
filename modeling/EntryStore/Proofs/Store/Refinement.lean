import EntryStore.Proofs.Store.Calls
import EntryStore.Proofs.Store.Image

/-!
# A store is a finite map

On the table that holds the bindings of a map, each call of which the texts are taken answers
what the map answers, and leaves the table that holds the bindings of the map after the call.  By
induction this goes for every sequence of calls that follows the creation of the table.
-/

namespace EntryStore

open Sql (Connection Database PatternMeaning Table)
open Regex (Takes meaning?)
open Identifier (NormalForm)
open Outcome (Yields)

namespace Store

variable {mapping : Mapping}

/-- A store is made where the columns of all fields can be looked up. -/
theorem ofMapping_eq (mapping : Mapping) :
    ofMapping mapping = Field.all.mapM mapping.layout.resolve >>= fun _ => pure ⟨mapping⟩ := by
  unfold ofMapping
  rw [Outcome.forIn_discard]
  cases Field.all.mapM mapping.layout.resolve <;> rfl

/-- Only mappings of all fields have stores. -/
theorem ofMapping_yields (mapping : Mapping) :
    Yields (ofMapping mapping) (∀ field, mapping.layout.Maps field) ⟨mapping⟩ := by
  have all : (∀ field ∈ Field.all, mapping.layout.Maps field) ↔
      ∀ field, mapping.layout.Maps field :=
    forall_congr' fun field => forall_prop_of_true (Field.mem_all field)
  rw [ofMapping_eq]
  exact ((Yields.mapM mapping.layout.resolve_yields Field.all).bind_pure _).congr all

/-! ## The table -/

section Table

variable {meaning : PatternMeaning} (sound : mapping.Sound) (usable : mapping.Usable)
include sound usable

theorem run_ensureTable_of {database after : Database}
    (created : database.create mapping.table (freshTable mapping).columns = .ok after) :
    (Store.mk mapping).ensureTable.run (Connection.executor meaning) (.of database) =
      (.ok (), .of after) := by
  have words := (allNames_create sound).imp fun _ => Sql.isWord_of_isName
  have executed : database.execute meaning
      (.create mapping.table (freshTable mapping).columns) [] = .ok (.affected 0, after) :=
    Database.execute_create created
  have sent := Connection.execute_of words (regular_create usable.maps) executed
  unfold ensureTable
  rw [tableStatement_eq usable.maps]
  exact run_finish ((Program.run_countOf _ _ _).trans sent) fun _ => ()

/-- A fresh database gets the table that holds nothing. -/
theorem run_ensureTable_empty :
    (Store.mk mapping).ensureTable.run (Connection.executor meaning)
        (Connection.of Database.empty) = (.ok (), stored mapping []) :=
  run_ensureTable_of sound usable
    (Database.create_empty usable.here (tidy_freshTable usable))

/-- A table that is there is kept. -/
theorem run_ensureTable (list : List Binding) :
    (Store.mk mapping).ensureTable.run (Connection.executor meaning) (stored mapping list) =
      (.ok (), stored mapping list) := by
  have known : (Database.mk [image mapping list]).tables.any (fun other =>
      Sql.sameName other.name (Sql.splitName mapping.table).2) = true := by
    rw [List.any_cons]
    exact Bool.or_eq_true_iff.mpr (Or.inl (Sql.sameName_self _))
  exact run_ensureTable_of sound usable
    (Database.create_of_any usable.here known (tidy_freshTable usable).plain)

/-- Calls that follow the creation of the table meet one that holds nothing. -/
theorem answers_ensureTable (calls : List Call) :
    (Store.mk mapping).answers (Connection.executor meaning) (.ensureTable :: calls)
        (Connection.of Database.empty) =
      .ok .done ::
        (Store.mk mapping).answers (Connection.executor meaning) calls (stored mapping []) := by
  have created : ((Store.mk mapping).perform .ensureTable).run (Connection.executor meaning)
      (Connection.of Database.empty) = (.ok .done, stored mapping []) :=
    run_finish (run_ensureTable_empty sound usable) fun _ => Answer.done
  rw [answers, created]

end Table

/-! ## Calls -/

section Calls

variable {meaning : PatternMeaning} {owner key : String} (sound : mapping.Sound)
  (usable : mapping.Usable) (bindings : Bindings)

section Pair

variable (ownerTaken : Takes meaning owner) (keyTaken : Takes meaning key)
include sound usable ownerTaken

theorem run_keys :
    ((Store.mk mapping).keys owner).run (Connection.executor meaning)
        (stored mapping bindings.list) =
      (.ok ((bindings.ofOwner owner).map (·.key)), stored mapping bindings.list) := by
  have placed := placed_freshTable usable
  have shown : (fun row => mapping.layout.cells (freshTable mapping) row .key) ∘
      mapping.layout.bindingRow (freshTable mapping) = some ∘ Binding.key :=
    funext fun binding => Layout.cells_bindingRow placed binding .key
  rw [(holds_stored usable bindings.list).run_keys sound usable ownerTaken, List.filter_map,
    List.filterMap_map, shown, List.filterMap_eq_map]
  simp only [Function.comp_def, Layout.cells_bindingRow placed, Option.some_beq_some]
  rfl

theorem run_purge :
    ((Store.mk mapping).purge owner).run (Connection.executor meaning)
        (stored mapping bindings.list) =
      (.ok (bindings.ofOwner owner).length, stored mapping (bindings.purge owner).list) := by
  unfold purge
  rw [ofOwner_eq, run_delete sound usable (selects_owner ownerTaken) fun _ => Option.some_beq_some,
    List.countP_eq_length_filter]
  rfl

theorem run_entries :
    ((Store.mk mapping).entries owner).run (Connection.executor meaning)
        (stored mapping bindings.list) =
      (.ok (bindings.entries owner), stored mapping bindings.list) := by
  have placed := placed_freshTable usable
  rw [(holds_stored usable bindings.list).run_entries sound usable ownerTaken, List.filter_map,
    List.map_map]
  simp only [Function.comp_def, entryOf, Layout.cells_bindingRow placed, Option.some_beq_some]
  rfl

include keyTaken

theorem run_getString :
    ((Store.mk mapping).getString owner key).run (Connection.executor meaning)
        (stored mapping bindings.list) =
      (.ok (bindings.lookup owner key), stored mapping bindings.list) := by
  rw [(holds_stored usable bindings.list).run_getString sound usable ownerTaken keyTaken,
    List.find?_map, isAt_comp_bindingRow usable]
  unfold Bindings.lookup
  cases bindings.list.find? (·.isAt owner key) with
  | none => rfl
  | some binding =>
      rw [Option.map_some, Option.bind_some, Layout.cells_bindingRow (placed_freshTable usable)]
      rfl

theorem run_contains :
    ((Store.mk mapping).contains owner key).run (Connection.executor meaning)
        (stored mapping bindings.list) =
      (.ok (bindings.lookup owner key).isSome, stored mapping bindings.list) := by
  rw [(holds_stored usable bindings.list).run_contains sound usable ownerTaken keyTaken,
    List.any_map, isAt_comp_bindingRow usable, bindings.isSome_lookup, Bindings.binds]

theorem run_delete_pair :
    ((Store.mk mapping).delete owner key).run (Connection.executor meaning)
        (stored mapping bindings.list) =
      (.ok (bindings.binds owner key).toNat, stored mapping (bindings.unbind owner key).list) := by
  have same : ∀ binding : Binding, (some binding.owner == some owner &&
      some binding.key == some key) = binding.isAt owner key := fun _ => by
    rw [Option.some_beq_some, Option.some_beq_some]
    rfl
  unfold delete
  rw [ofPair_eq, run_delete sound usable (selects_pair ownerTaken keyTaken) same,
    bindings.countP_isAt]
  rfl

theorem run_setValue (value : Value) :
    ((Store.mk mapping).setValue owner key value).run (Connection.executor meaning)
        (stored mapping bindings.list) =
      (.ok (), stored mapping (bindings.bind owner key value.parameter).list) := by
  rw [((holds_stored usable bindings.list).run_setValue sound usable ownerTaken keyTaken value).1,
    storeRows_map usable, withRows_stored]

end Pair

variable (taken : ∀ literal, Takes meaning literal)
include sound usable taken

/-- Where all literals are taken, each call answers what the map answers, and leaves the table of
the map after the call. -/
theorem run_perform (call : Call) :
    ((Store.mk mapping).perform call).run (Connection.executor meaning)
        (stored mapping bindings.list) =
      (.ok (bindings.apply call).1, stored mapping (bindings.apply call).2.list) := by
  have stores := fun (owner key : String) (value : Value) =>
    run_setValue sound usable bindings (taken owner) (taken key) value
  have removes := fun (owner key : String) =>
    run_delete_pair sound usable bindings (taken owner) (taken key)
  cases call with
  | ensureTable => exact run_finish (run_ensureTable sound usable _) fun _ => Answer.done
  | setString owner key text? =>
      cases text? with
      | none => exact run_finish (run_finish (removes owner key) fun _ => ()) fun _ => Answer.done
      | some text => exact run_finish (stores owner key (.text text)) fun _ => Answer.done
  | setValue owner key value => exact run_finish (stores owner key value) fun _ => Answer.done
  | setObject owner key document =>
      exact run_finish (stores owner key (.json document)) fun _ => Answer.done
  | setList owner key elements? =>
      cases elements? with
      | none => exact run_finish (run_finish (removes owner key) fun _ => ()) fun _ => Answer.done
      | some elements =>
          exact run_finish (stores owner key (.json (.array elements))) fun _ => Answer.done
  | getString owner key =>
      exact run_finish (run_getString sound usable bindings (taken owner) (taken key)) Answer.text
  | contains owner key =>
      exact run_finish (run_contains sound usable bindings (taken owner) (taken key)) Answer.truth
  | keys owner => exact run_finish (run_keys sound usable bindings (taken owner)) Answer.keys
  | delete owner key =>
      refine (run_finish (removes owner key) Answer.count).trans ?_
      have count : (bindings.binds owner key).toNat =
          if (bindings.lookup owner key).isSome then 1 else 0 := by
        rw [bindings.isSome_lookup]
        cases bindings.binds owner key <;> rfl
      rw [count]
      rfl
  | purge owner => exact run_finish (run_purge sound usable bindings (taken owner)) Answer.count
  | entries owner =>
      exact run_finish (run_entries sound usable bindings (taken owner)) Answer.entries

/-- A sequence of calls answers what the map answers. -/
theorem answers_stored (calls : List Call) :
    (Store.mk mapping).answers (Connection.executor meaning) calls
        (stored mapping bindings.list) = (bindings.answers calls).map .ok := by
  induction calls generalizing bindings with
  | nil => rfl
  | cons call calls ih =>
      rw [answers, run_perform sound usable bindings taken]
      exact congrArg _ (ih (bindings.apply call).2)

end Calls

/-- On a fresh database, a store whose columns can stand side by side answers every sequence of
calls that follows the creation of its table like a finite map that binds nothing at first. -/
theorem answers_eq_bindings {normalize : String → String} (laws : NormalForm normalize)
    (checked : mapping.Checked normalize) {store : Store} (made : ofMapping mapping = .ok store)
    (plain : ∀ column ∈ mapping.layout.allColumns, Sql.isQualified column = false)
    (distinct : (mapping.layout.allColumns.map Sql.foldName).Nodup)
    (here : Database.IsHere mapping.table)
    (calls : List Call) :
    store.answers (Connection.executor meaning?) (.ensureTable :: calls)
        (Connection.of Database.empty) =
      .ok .done :: (Bindings.empty.answers calls).map .ok := by
  obtain ⟨maps, rfl⟩ := (ofMapping_yields mapping).of_ok made
  have sound := checked.sound laws
  have separate : mapping.Separate := ⟨maps, plain, distinct, here⟩
  rw [answers_ensureTable sound separate]
  exact congrArg _ (answers_stored sound separate Bindings.empty Regex.takes_meaning? calls)

theorem answers_eq_bindings_sample :
    (Store.mk Mapping.sample).answers (Connection.executor meaning?)
        [.ensureTable, .setString "a.c" "k" (some "v"), .getString "abc" "k", .keys "a.c",
          .delete "a.c" "k", .contains "a.c" "k"] (Connection.of Database.empty) =
      [.ok .done, .ok .done, .ok (.text none), .ok (.keys ["k"]), .ok (.count 1),
        .ok (.truth false)] :=
  answers_eq_bindings Identifier.normalForm_id Mapping.checked_sample rfl (by decide) (by decide)
    (by decide) [.setString "a.c" "k" (some "v"), .getString "abc" "k", .keys "a.c",
      .delete "a.c" "k", .contains "a.c" "k"]

end Store

end EntryStore
