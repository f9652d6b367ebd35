import EntryStore.Proofs.Exchange
import EntryStore.Proofs.Store.Refinement

/-!
# The columns of a table and their constraints

The table of a store gets one column for each name in its mapping, in the order in which the names
come first.  Whether a column is required is decided where its name comes first, too: it is if the
field there has it as its primary column.  Most mappings have each primary column first with the
field that it belongs to.  In the others, a primary column that an earlier field has as a further
column is not required.
-/

namespace EntryStore

open Sql (ColumnDefinition Prepared Statement)
open Identifier (NormalForm)

namespace Layout

/-- The first field, in the order of the fields, that has a column. -/
def firstWith? (layout : Layout) (column : String) : Option Field :=
  Field.all.find? fun field => (layout.columnsOf field).contains column

/-- A column is the primary column of some field. -/
def IsPrimary (layout : Layout) (column : String) : Prop :=
  ∃ field, layout.primaryOf field = column

/-- A column is the primary column of the first field that has it. -/
def LeadsFirst (layout : Layout) (column : String) : Prop :=
  ∃ field, layout.firstWith? column = some field ∧ layout.primaryOf field = column

end Layout

namespace Store

/-! ## Definitions that come first -/

section Fold

variable {definitions : List ColumnDefinition} {column : ColumnDefinition}

theorem addDefinition_of_mem (known : column.name ∈ definitions.map (·.name)) :
    addDefinition definitions column = definitions := by
  obtain ⟨other, member, same⟩ := List.mem_map.mp known
  rw [addDefinition, if_pos]
  exact List.any_eq_true.mpr ⟨other, member, beq_iff_eq.mpr same⟩

theorem addDefinition_of_not_mem (new : column.name ∉ definitions.map (·.name)) :
    addDefinition definitions column = definitions ++ [column] := by
  refine if_neg fun known => new ?_
  obtain ⟨other, member, same⟩ := List.any_eq_true.mp known
  exact List.mem_map.mpr ⟨other, member, beq_iff_eq.mp same⟩

/-- Names are defined in the order in which they come first. -/
theorem map_name_foldl (named : List ColumnDefinition) :
    (named.foldl addDefinition []).map (·.name) = (named.map (·.name)).eraseDups := by
  induction named using List.reverseRecOn with
  | nil => rfl
  | append_singleton named column ih =>
      rw [List.foldl_append, List.foldl_cons, List.foldl_nil, List.map_append, List.eraseDups_append,
        ← ih]
      by_cases known : column.name ∈ named.map (·.name)
      · have defined : column.name ∈ (named.foldl addDefinition []).map (·.name) := by
          rwa [ih, List.mem_eraseDups]
        have nothing : [column.name].removeAll (named.map (·.name)) = [] := by
          rw [List.cons_removeAll, List.nil_removeAll]; simp only [List.contains_eq_mem, known]; rfl
        rw [addDefinition_of_mem defined, List.map_singleton, nothing, List.eraseDups_nil,
          List.append_nil]
      · have undefined : column.name ∉ (named.foldl addDefinition []).map (·.name) := by
          rwa [ih, List.mem_eraseDups]
        have kept : [column.name].removeAll (named.map (·.name)) = [column.name] := by
          rw [List.cons_removeAll, List.nil_removeAll]; simp only [List.contains_eq_mem, known]; rfl
        rw [addDefinition_of_not_mem undefined, List.map_append, List.map_singleton, kept]
        rfl

theorem mem_map_name_foldl {named : List ColumnDefinition} {name : String} :
    name ∈ (named.foldl addDefinition []).map (·.name) ↔ name ∈ named.map (·.name) := by
  rw [map_name_foldl, List.mem_eraseDups]

/-- Of several definitions of a name the first one counts. -/
theorem mem_foldl_iff {named : List ColumnDefinition} {definition : ColumnDefinition} :
    definition ∈ named.foldl addDefinition [] ↔
      named.find? (·.name == definition.name) = some definition := by
  induction named using List.reverseRecOn with
  | nil => simp
  | append_singleton named column ih =>
      rw [List.foldl_append, List.foldl_cons, List.foldl_nil, List.find?_append]
      by_cases known : column.name ∈ named.map (·.name)
      · rw [addDefinition_of_mem (mem_map_name_foldl.mpr known), ih]
        cases found : named.find? (·.name == definition.name) with
        | some first => rw [Option.some_or]
        | none =>
            have differs : column.name ≠ definition.name := by
              intro same
              obtain ⟨other, member, named⟩ := List.mem_map.mp known
              exact List.find?_eq_none.mp found other member (beq_iff_eq.mpr (named.trans same))
            simp [differs]
      · rw [addDefinition_of_not_mem fun defined => known (mem_map_name_foldl.mp defined),
          List.mem_append, List.mem_singleton, ih]
        cases found : named.find? (·.name == definition.name) with
        | some first =>
            have named : definition.name ∈ named.map (·.name) :=
              List.mem_map.mpr ⟨first, List.mem_of_find?_eq_some found,
                beq_iff_eq.mp (List.find?_some found :)⟩
            have differs : definition ≠ column := fun same => known (same ▸ named)
            simp [differs]
        | none =>
            by_cases same : column = definition
            · simp [same]
            · have other : column.name = definition.name → column ≠ definition := fun _ => same
              simp [Ne.symm same, same]

end Fold

/-! ## Definitions of a mapping -/

/-- Behind the first column of a field, all columns are further ones. -/
theorem find?_further (column : String) (names : List String) (index : Nat) :
    ((names.zipIdx (index + 1)).map fun (name, index) =>
      (⟨name, index == 0⟩ : ColumnDefinition)).find? (·.name == column) =
      if names.contains column then some ⟨column, false⟩ else none := by
  induction names generalizing index with
  | nil => rfl
  | cons name names ih =>
      rw [List.zipIdx_cons, List.map_cons, List.find?_cons, List.contains_cons]
      by_cases same : name = column
      · simp [same]
      · have differs : (column == name) = false := beq_false_of_ne (Ne.symm same)
        simp [beq_false_of_ne same, differs, ih]

/-- The definition of a name that comes first is that of the first field which has the name, and
required if it is the first name there. -/
theorem find?_namedDefinitions (columns : List (List String)) (column : String) :
    (namedDefinitions columns).find? (·.name == column) =
      (columns.find? (·.contains column)).map fun names => ⟨column, names.head? == some column⟩ := by
  induction columns with
  | nil => rfl
  | cons names columns ih =>
      rw [namedDefinitions, List.flatMap_cons, List.find?_append, ← namedDefinitions, ih,
        List.find?_cons]
      cases names with
      | nil => rfl
      | cons first others =>
          rw [List.zipIdx_cons, List.map_cons, List.find?_cons, find?_further, List.contains_cons]
          by_cases same : first = column
          · simp [same]
          · have differs : (column == first) = false := beq_false_of_ne (Ne.symm same)
            by_cases further : column ∈ others
            · simp [beq_false_of_ne same, differs, further]
            · simp [beq_false_of_ne same, differs, further]

section Mapping

variable {mapping : Mapping}

/-- A column is required if it is primary for the first field that has it. -/
theorem required_iff_leadsFirst {definition : ColumnDefinition}
    (member : definition ∈ (freshTable mapping).columns) :
    definition.required = true ↔ mapping.layout.LeadsFirst definition.name := by
  have first := mem_foldl_iff.mp member
  change (namedDefinitions (Field.all.map mapping.layout.columnsOf)).find? _ = _ at first
  rw [find?_namedDefinitions, List.find?_map] at first
  obtain ⟨names, chosen, same⟩ := Option.map_eq_some_iff.mp first
  obtain ⟨field, found, rfl⟩ := Option.map_eq_some_iff.mp chosen
  have firstWith : mapping.layout.firstWith? definition.name = some field := found
  have has : definition.name ∈ mapping.layout.columnsOf field :=
    List.contains_iff_mem.mp (List.find?_some found :)
  obtain ⟨name, others, columns⟩ := List.exists_cons_of_ne_nil (List.ne_nil_of_mem has)
  have required :
      definition.required = true ↔ mapping.layout.primaryOf field = definition.name := by
    rw [← congrArg ColumnDefinition.required same, Layout.primaryOf, columns]
    simp
  rw [required]
  constructor
  · exact fun primary => ⟨field, firstWith, primary⟩
  · rintro ⟨other, found, primary⟩
    rw [firstWith] at found
    cases found
    exact primary

/-- The columns that are required are all primary columns, unless one of these comes first as a
further column of an earlier field. -/
theorem required_iff_isPrimary_iff (maps : ∀ field, mapping.layout.Maps field) :
    (∀ definition ∈ (freshTable mapping).columns,
        (definition.required = true ↔ mapping.layout.IsPrimary definition.name)) ↔
      ∀ field, mapping.layout.LeadsFirst (mapping.layout.primaryOf field) := by
  constructor
  · intro follows field
    obtain ⟨definition, member, name⟩ :=
      exists_definition (Layout.primaryOf_mem_columnsOf (maps field))
    rw [← name]
    exact (required_iff_leadsFirst member).mp ((follows definition member).mpr ⟨field, name.symm⟩)
  · intro first definition member
    rw [required_iff_leadsFirst member]
    constructor
    · rintro ⟨field, _, primary⟩
      exact ⟨field, primary⟩
    · rintro ⟨field, primary⟩
      exact primary ▸ first field

/-- The one statement that is sent for a table defines it. -/
theorem log_ensureTable (maps : ∀ field, mapping.layout.Maps field) {σ : Type}
    (executor : Executor σ) (state : σ) :
    (Store.mk mapping).ensureTable.log executor state =
      [.executed (.of (.create mapping.table (freshTable mapping).columns) [])
        (executor.execute (.of (.create mapping.table (freshTable mapping).columns) [])
          state).1] := by
  unfold ensureTable
  rw [tableStatement_eq maps]
  exact (Program.log_finish _ _).trans Program.log_countOf

end Mapping

/-- For a mapping of all fields one statement is sent.  It defines each column of the mapping
once, where its name comes first, and requires the columns that are primary there.  These are all
primary columns exactly if each of them is primary for the first field that has it. -/
theorem table_defines_columns {normalize : String → String} (laws : NormalForm normalize)
    {mapping : Mapping} (checked : mapping.Checked normalize) {store : Store}
    (made : ofMapping mapping = .ok store) :
    ∃ (definitions : List ColumnDefinition) (sent : Prepared),
      Statement.read? sent.sql = some (.create mapping.table definitions) ∧ sent.params = [] ∧
      (∀ {σ : Type} (executor : Executor σ) (state : σ),
        store.ensureTable.log executor state =
          [.executed sent (executor.execute sent state).1]) ∧
      definitions.map (·.name) = mapping.layout.allColumns.eraseDups ∧
      (∀ definition ∈ definitions,
        definition.required = true ↔ mapping.layout.LeadsFirst definition.name) ∧
      ((∀ definition ∈ definitions,
          (definition.required = true ↔ mapping.layout.IsPrimary definition.name)) ↔
        ∀ field, mapping.layout.LeadsFirst (mapping.layout.primaryOf field)) := by
  obtain ⟨maps, rfl⟩ := (ofMapping_yields mapping).of_ok made
  have sound := checked.sound laws
  refine ⟨(freshTable mapping).columns,
    .of (.create mapping.table (freshTable mapping).columns) [], ?_, rfl, ?_, ?_,
    fun definition member => required_iff_leadsFirst member, required_iff_isPrimary_iff maps⟩
  · exact read?_create maps sound
  · exact log_ensureTable maps
  · rw [← map_name_fields]
    exact map_name_foldl _

/-- The key has a primary column that the owner has as a further one, and the value one that the
key has so. -/
def lentColumns : Mapping :=
  ⟨"meta", ⟨some ["a", "b"], some ["b", "c"], some ["c", "a", "d", "d"]⟩⟩

theorem checked_lentColumns : lentColumns.Checked id :=
  ⟨⟨lentColumns.table, lentColumns.columns⟩, by decide +kernel⟩

theorem table_defines_columns_sample :
    ∃ (definitions : List ColumnDefinition) (sent : Prepared),
      Statement.read? sent.sql = some (.create "meta" definitions) ∧
      definitions.map (·.name) = ["a", "b", "c", "d"] ∧
      ∀ definition ∈ definitions,
        definition.required = true ↔ lentColumns.layout.LeadsFirst definition.name := by
  have made : ofMapping lentColumns = .ok ⟨lentColumns⟩ := rfl
  obtain ⟨definitions, sent, reads, _, _, names, required, _⟩ :=
    table_defines_columns Identifier.normalForm_id checked_lentColumns made
  exact ⟨definitions, sent, reads, names, required⟩

/-- Primary columns of key and value are not required. -/
theorem primary_columns_optional :
    lentColumns.Checked id ∧ ofMapping lentColumns = .ok ⟨lentColumns⟩ ∧
      tableStatement lentColumns.layout =
        .ok (.create "meta" [⟨"a", true⟩, ⟨"b", false⟩, ⟨"c", false⟩, ⟨"d", false⟩]) ∧
      ¬ ∀ definition ∈ ([⟨"a", true⟩, ⟨"b", false⟩, ⟨"c", false⟩, ⟨"d", false⟩] :
          List ColumnDefinition),
        (definition.required = true ↔ lentColumns.layout.IsPrimary definition.name) := by
  refine ⟨checked_lentColumns, rfl, rfl, fun follows => ?_⟩
  have required := (follows ⟨"b", false⟩ (by decide)).mpr ⟨.key, rfl⟩
  cases required

end Store

end EntryStore
