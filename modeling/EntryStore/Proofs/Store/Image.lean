import EntryStore.Proofs.Store.Requests

/-!
# Maps as tables

The table of a store holds a row for each binding of a map.  The filters of a store pick the
rows of the bindings that they name and of no others; what a request does to the rows is then
what the map does to its bindings.
-/

namespace EntryStore.Store

open Sql (Connection Database PatternMeaning Prepared Table)

/-- The table that holds bindings. -/
def image (mapping : Mapping) (list : List Binding) : Table :=
  { freshTable mapping with rows := list.map (mapping.layout.bindingRow (freshTable mapping)) }

/-- An open connection to a database of the one table that holds bindings. -/
def stored (mapping : Mapping) (list : List Binding) : Connection := .of ⟨[image mapping list]⟩

section Rows

variable {mapping : Mapping} {list : List Binding}

theorem find?_image (usable : mapping.Usable) (list : List Binding) :
    Database.find? ⟨[image mapping list]⟩ mapping.table = some (image mapping list) := by
  have here := usable.here
  unfold Database.IsHere at here
  unfold Database.find?
  cases split : Sql.splitName mapping.table with
  | mk schema? table =>
      rw [split] at here
      have name : (image mapping list).name = table := congrArg Prod.snd split
      simp only [here, if_true, List.find?_cons, name, Sql.sameName_self]

theorem replace_image (list : List Binding) (rows : List Row) :
    Database.replace ⟨[image mapping list]⟩ { image mapping list with rows := rows } =
      ⟨[{ freshTable mapping with rows := rows }]⟩ := by
  unfold Database.replace
  simp only [List.map_cons, List.map_nil, Sql.sameName_self, if_true]
  rfl

/-- The table of a map is a table of rows. -/
theorem holds_stored (usable : mapping.Usable) (list : List Binding) :
    Holds mapping (list.map (mapping.layout.bindingRow (freshTable mapping)))
      (stored mapping list) where
  isOpen := rfl
  found := find?_image usable list
  admissible := List.forall_mem_map.mpr fun binding _ => admissible_bindingRow usable binding

theorem withRows_stored (list others : List Binding) :
    withRows mapping (others.map (mapping.layout.bindingRow (freshTable mapping)))
        (stored mapping list) = stored mapping others :=
  congrArg Connection.of (replace_image list _)

/-- The row of a binding is at the pair of the binding. -/
theorem isAt_comp_bindingRow (usable : mapping.Usable) (owner key : String) :
    mapping.layout.isAt (freshTable mapping) owner key ∘
      mapping.layout.bindingRow (freshTable mapping) = (·.isAt owner key) :=
  funext fun binding => Layout.isAt_bindingRow (placed_freshTable usable) binding owner key

/-- A deletion removes the bindings that its filter picks. -/
theorem run_delete {meaning : PatternMeaning} (sound : mapping.Sound) (usable : mapping.Usable)
    {filter : Filter} {picks : (Field → Option String) → Bool}
    (selects : Selects meaning filter picks) {chosen : Binding → Bool}
    (same : ∀ binding, picks (fun field => some (binding.get field)) = chosen binding) :
    ((Store.mk mapping).affected (.ok (.act .delete filter))).run
        (Connection.executor meaning) (stored mapping list) =
      (.ok (list.countP chosen), stored mapping (list.filter fun binding => !chosen binding)) := by
  have picked : ∀ binding, picks (mapping.layout.cells (freshTable mapping)
      (mapping.layout.bindingRow (freshTable mapping) binding)) = chosen binding := by
    intro binding
    rw [funext (Layout.cells_bindingRow (placed_freshTable usable) binding), same]
  rw [((holds_stored usable list).delete sound usable selects).run, List.countP_map,
    List.filter_map, withRows_stored]
  simp only [Function.comp_def, picked]

/-- Giving the rows of a pair another value rebinds the bindings of the pair. -/
theorem rewriteRows_map (usable : mapping.Usable) (owner key text : String)
    (list : List Binding) :
    mapping.layout.rewriteRows (freshTable mapping) owner key text
        (list.map (mapping.layout.bindingRow (freshTable mapping))) =
      (list.map fun binding =>
        if binding.isAt owner key then binding.withText text else binding).map
          (mapping.layout.bindingRow (freshTable mapping)) := by
  have placed := placed_freshTable usable
  rw [Layout.rewriteRows, List.map_map, List.map_map]
  apply List.map_congr_left
  intro binding _
  rw [Function.comp_apply, Function.comp_apply, Layout.isAt_bindingRow placed]
  split
  · exact Layout.withValue_bindingRow placed binding text
  · rfl

/-- Storing a text for a pair binds the pair. -/
theorem storeRows_map (usable : mapping.Usable) (bindings : Bindings)
    (owner key text : String) :
    mapping.layout.storeRows (freshTable mapping) owner key text
        (bindings.list.map (mapping.layout.bindingRow (freshTable mapping))) =
      (bindings.bind owner key text).list.map (mapping.layout.bindingRow (freshTable mapping)) := by
  rw [Layout.storeRows, List.countP_map, isAt_comp_bindingRow usable, bindings.countP_isAt,
    bindings.list_bind]
  cases bindings.binds owner key with
  | true => exact rewriteRows_map usable owner key text bindings.list
  | false =>
      rw [Bool.toNat_false, if_pos rfl, if_neg Bool.false_ne_true, List.map_append,
        List.map_singleton]

end Rows

end EntryStore.Store
