import EntryStore.Proofs.Store.Rows

/-!
# The table of a store

A store that is to work on a fresh database needs a mapping whose columns can stand in one
table: side by side, each with a name of its own (`Mapping.Separate`), or shared by fields that
have primary columns of their own (`Mapping.Usable`).  The table then has one column for each
name, and a binding is kept as a row with its texts in the primary columns.
-/

namespace EntryStore

open Sql (Database Table ColumnDefinition foldName isQualified)

namespace Layout

variable {layout : Layout} {field : Field}

/-- All columns that a layout maps fields to, in the order of the fields. -/
def allColumns (layout : Layout) : List String := Field.all.flatMap layout.columnsOf

/-- Where the primary column of a field stands among the columns of all fields. -/
def offsetOf (layout : Layout) : Field → Nat
  | .owner => 0
  | .key => (layout.columnsOf .owner).length
  | .value => (layout.columnsOf .owner).length + (layout.columnsOf .key).length

/-- The columns of all fields, split where those of a field begin. -/
theorem exists_split_allColumns (layout : Layout) (field : Field) :
    ∃ earlier later, layout.allColumns = earlier ++ (layout.columnsOf field ++ later) ∧
      earlier.length = layout.offsetOf field := by
  cases field with
  | owner => exact ⟨[], _, rfl, rfl⟩
  | key => exact ⟨layout.columnsOf .owner, layout.columnsOf .value ++ [], rfl, rfl⟩
  | value =>
      refine ⟨layout.columnsOf .owner ++ layout.columnsOf .key, [], ?_, List.length_append⟩
      exact (List.append_assoc _ _ _).symm

theorem getElem?_allColumns (maps : layout.Maps field) :
    layout.allColumns[layout.offsetOf field]? = some (layout.primaryOf field) := by
  obtain ⟨first, others, columns⟩ := List.exists_cons_of_ne_nil maps
  obtain ⟨earlier, later, split, length⟩ := layout.exists_split_allColumns field
  rw [primaryOf, split, columns, ← length, List.getElem?_append_right (Nat.le_refl _),
    Nat.sub_self]
  rfl

theorem mem_allColumns {column : String} (member : column ∈ layout.columnsOf field) :
    column ∈ layout.allColumns :=
  List.mem_flatMap.mpr ⟨field, Field.mem_all field, member⟩

theorem primaryOf_mem_allColumns (maps : layout.Maps field) :
    layout.primaryOf field ∈ layout.allColumns :=
  mem_allColumns (primaryOf_mem_columnsOf maps)

/-- Where no name comes twice, a column belongs to one field. -/
theorem eq_of_mem_columnsOf (distinct : layout.allColumns.Nodup) {other : Field}
    {column : String} (here : column ∈ layout.columnsOf field)
    (there : column ∈ layout.columnsOf other) : field = other := by
  have disjoint := (List.nodup_flatMap.mp distinct).2
  have symmetric : Std.Symm (Function.onFun List.Disjoint layout.columnsOf) :=
    ⟨fun _ _ disjoint _ left right => disjoint right left⟩
  by_contra different
  exact disjoint.forall (Field.mem_all field) (Field.mem_all other) different here there

theorem offsetOf_lt (maps : layout.Maps field) :
    layout.offsetOf field < layout.allColumns.length :=
  (List.getElem?_eq_some_iff.mp (getElem?_allColumns maps)).1

end Layout

/-- Every field is mapped, and the columns can stand side by side in one table, in the schema
of the database. -/
structure Mapping.Separate (mapping : Mapping) : Prop where
  maps : ∀ field, mapping.layout.Maps field
  plain : ∀ column ∈ mapping.layout.allColumns, isQualified column = false
  distinct : (mapping.layout.allColumns.map foldName).Nodup
  here : Database.IsHere mapping.table

/-- Every field is mapped, and has a primary column of its own, in a table of the schema of the
database.  Other columns may serve several fields, but columns of different names differ in more
than case. -/
structure Mapping.Usable (mapping : Mapping) : Prop where
  maps : ∀ field, mapping.layout.Maps field
  plain : ∀ column ∈ mapping.layout.allColumns, isQualified column = false
  cased : ∀ column ∈ mapping.layout.allColumns, ∀ other ∈ mapping.layout.allColumns,
    foldName column = foldName other → column = other
  apart : ∀ field other,
    mapping.layout.primaryOf field = mapping.layout.primaryOf other → field = other
  here : Database.IsHere mapping.table

namespace Mapping

variable {mapping : Mapping}

/-- Where all columns have names of their own, no two fields share one. -/
theorem Separate.usable (separate : mapping.Separate) : mapping.Usable where
  maps := separate.maps
  plain := separate.plain
  cased := fun _ member _ otherMember =>
    List.inj_on_of_nodup_map separate.distinct member otherMember
  apart := by
    intro field other same
    have there := Layout.primaryOf_mem_columnsOf (separate.maps other)
    rw [← same] at there
    exact Layout.eq_of_mem_columnsOf separate.distinct.of_map
      (Layout.primaryOf_mem_columnsOf (separate.maps field)) there
  here := separate.here

instance : Coe mapping.Separate mapping.Usable := ⟨Separate.usable⟩

theorem separate_sample : sample.Separate where
  maps := fun field => by cases field <;> exact List.cons_ne_nil _ _
  plain := by decide
  distinct := by decide
  here := by decide

end Mapping

namespace Store

/-! ## Definitions -/

/-- The definitions of columns, with repetitions. -/
def namedDefinitions (columns : List (List String)) : List ColumnDefinition :=
  columns.flatMap fun names => names.zipIdx.map fun (name, index) => ⟨name, index == 0⟩

theorem map_name_namedDefinitions (columns : List (List String)) :
    (namedDefinitions columns).map (·.name) = columns.flatten := by
  unfold namedDefinitions
  rw [List.map_flatMap]
  have names : ∀ names : List String,
      (names.zipIdx.map fun (name, index) => (⟨name, index == 0⟩ : ColumnDefinition)).map
        (·.name) = names := by
    intro names
    rw [List.map_map]
    exact List.zipIdx_map_fst 0 names
  simp only [names]
  exact List.flatMap_id'

/-- The column of a required definition is the first of its field. -/
theorem head?_of_required {columns : List (List String)} {definition : ColumnDefinition}
    (member : definition ∈ namedDefinitions columns) (required : definition.required = true) :
    ∃ names ∈ columns, names.head? = some definition.name := by
  obtain ⟨names, namesMember, inNames⟩ := List.mem_flatMap.mp member
  obtain ⟨⟨name, index⟩, indexed, rfl⟩ := List.mem_map.mp inNames
  refine ⟨names, namesMember, ?_⟩
  rw [List.mem_zipIdx_iff_getElem?, beq_iff_eq.mp required] at indexed
  rw [List.head?_eq_getElem?]
  exact indexed

/-- Appends a definition unless its name is defined already. -/
def addDefinition (definitions : List ColumnDefinition) (column : ColumnDefinition) :
    List ColumnDefinition :=
  if definitions.any (·.name == column.name) then definitions else definitions ++ [column]

/-- The result of adding definitions to earlier ones: what is added is some of them, so that all
their names are defined and none is defined again. -/
structure Merges (earlier named result : List ColumnDefinition) : Prop where
  keeps : ∀ definition ∈ earlier, definition ∈ result
  adds : ∀ definition ∈ result, definition ∈ earlier ∨ definition ∈ named
  defines : ∀ definition ∈ named, ∃ other ∈ result, other.name = definition.name
  distinct : (earlier.map (·.name)).Nodup → (result.map (·.name)).Nodup

theorem merges_addDefinition (earlier : List ColumnDefinition) (column : ColumnDefinition) :
    Merges earlier [column] (addDefinition earlier column) := by
  unfold addDefinition
  split
  · next defined =>
      obtain ⟨other, member, same⟩ := List.any_eq_true.mp defined
      exact ⟨fun _ member => member, fun _ member => Or.inl member,
        List.forall_mem_singleton.mpr ⟨other, member, beq_iff_eq.mp same⟩, fun distinct => distinct⟩
  · next undefined =>
      refine ⟨fun _ => List.mem_append_left _, fun _ => List.mem_append.mp,
        List.forall_mem_singleton.mpr ⟨column, List.mem_concat_self, rfl⟩, fun distinct => ?_⟩
      rw [List.map_append, List.map_singleton]
      refine distinct.append (List.nodup_singleton _) ?_
      rw [List.disjoint_singleton]
      intro member
      obtain ⟨other, otherMember, same⟩ := List.mem_map.mp member
      exact undefined (List.any_eq_true.mpr ⟨other, otherMember, beq_iff_eq.mpr same⟩)

theorem merges_foldl (earlier named : List ColumnDefinition) :
    Merges earlier named (named.foldl addDefinition earlier) := by
  induction named generalizing earlier with
  | nil =>
      exact ⟨fun _ member => member, fun _ member => Or.inl member, List.forall_mem_nil _,
        fun distinct => distinct⟩
  | cons column named ih =>
      have first := merges_addDefinition earlier column
      have later := ih (addDefinition earlier column)
      rw [List.foldl_cons]
      constructor
      · intro definition member
        exact later.keeps _ (first.keeps _ member)
      · intro definition member
        rcases later.adds _ member with old | new
        · rcases first.adds _ old with old | new
          · exact Or.inl old
          · exact Or.inr (List.mem_singleton.mp new ▸ List.mem_cons_self)
        · exact Or.inr (List.mem_cons_of_mem _ new)
      · intro definition member
        rcases List.mem_cons.mp member with rfl | member
        · obtain ⟨other, otherMember, same⟩ := first.defines _ (List.mem_singleton_self _)
          exact ⟨other, later.keeps _ otherMember, same⟩
        · exact later.defines _ member
      · intro distinct
        exact later.distinct (first.distinct distinct)

/-- Each name that comes in columns is defined once, by one of its definitions there. -/
theorem merges_definitions (columns : List (List String)) :
    Merges [] (namedDefinitions columns) (definitions columns) :=
  merges_foldl [] (namedDefinitions columns)

/-! ## The fresh table -/

/-- The table of a mapping as it is created. -/
def freshTable (mapping : Mapping) : Table :=
  ⟨(Sql.splitName mapping.table).2, definitions (Field.all.map mapping.layout.columnsOf), []⟩

/-- The statement that creates the table of a mapping of all fields. -/
theorem tableStatement_eq {mapping : Mapping} (maps : ∀ field, mapping.layout.Maps field) :
    tableStatement mapping.layout = .ok (.create mapping.table (freshTable mapping).columns) := by
  have resolved : Field.all.mapM mapping.layout.resolve =
      .ok (Field.all.map mapping.layout.columnsOf) :=
    Outcome.mapM_eq_ok fun field _ => (mapping.layout.resolve_yields field).eq_ok (maps field)
  unfold tableStatement
  rw [resolved]
  rfl

section Definitions

variable {mapping : Mapping}

theorem map_name_fields (mapping : Mapping) :
    (namedDefinitions (Field.all.map mapping.layout.columnsOf)).map (·.name) =
      mapping.layout.allColumns := by
  rw [map_name_namedDefinitions, ← List.flatMap_def]
  rfl

/-- Only columns that fields are mapped to are defined. -/
theorem mem_allColumns_of_mem {definition : ColumnDefinition}
    (member : definition ∈ (freshTable mapping).columns) :
    definition.name ∈ mapping.layout.allColumns := by
  rw [← map_name_fields]
  rcases (merges_definitions _).adds definition member with none | named
  · cases none
  · exact List.mem_map_of_mem named

/-- Only primary columns are required. -/
theorem exists_primaryOf_of_required {definition : ColumnDefinition}
    (member : definition ∈ (freshTable mapping).columns) (required : definition.required = true) :
    ∃ field, mapping.layout.primaryOf field = definition.name := by
  have named := ((merges_definitions _).adds definition member).resolve_left List.not_mem_nil
  obtain ⟨names, namesMember, first⟩ := head?_of_required named required
  obtain ⟨field, _, rfl⟩ := List.mem_map.mp namesMember
  refine ⟨field, ?_⟩
  rw [Layout.primaryOf, List.headD_eq_head?_getD, first]
  rfl

/-- Every column of a field has its definition. -/
theorem exists_definition {field : Field} {column : String}
    (member : column ∈ mapping.layout.columnsOf field) :
    ∃ definition ∈ (freshTable mapping).columns, definition.name = column := by
  have named : column ∈ mapping.layout.allColumns :=
    List.mem_flatMap.mpr ⟨field, Field.mem_all field, member⟩
  rw [← map_name_fields] at named
  obtain ⟨definition, definitionMember, rfl⟩ := List.mem_map.mp named
  exact (merges_definitions _).defines definition definitionMember

theorem allNames_create (sound : mapping.Sound) :
    (Sql.Statement.create mapping.table (freshTable mapping).columns).AllNames
      Identifier.IsName := by
  refine ⟨sound.table, fun definition member => ?_⟩
  obtain ⟨field, _, columnMember⟩ := List.mem_flatMap.mp (mem_allColumns_of_mem member)
  exact Query.isName_of_mem_columnsOf sound columnMember

theorem regular_create (maps : ∀ field, mapping.layout.Maps field) :
    (Sql.Statement.create mapping.table (freshTable mapping).columns).Regular := by
  obtain ⟨definition, member, _⟩ :=
    exists_definition (Layout.primaryOf_mem_columnsOf (maps .owner))
  exact List.ne_nil_of_mem member

/-- The statement that creates the table is read off its text. -/
theorem read?_create (maps : ∀ field, mapping.layout.Maps field) (sound : mapping.Sound) :
    Sql.Statement.read? (Sql.Statement.create mapping.table (freshTable mapping).columns).print =
      some (.create mapping.table (freshTable mapping).columns) :=
  Sql.Statement.read?_print ((allNames_create sound).imp fun _ => Sql.isWord_of_isName)
    (regular_create maps)

end Definitions

section Usable

variable {mapping : Mapping} (usable : mapping.Usable)
include usable

theorem tidy_freshTable : (freshTable mapping).Tidy := by
  constructor
  · intro definition member
    exact usable.plain _ (mem_allColumns_of_mem member)
  · have names := (merges_definitions (Field.all.map mapping.layout.columnsOf)).distinct
      List.nodup_nil
    have folded := names.map_on (f := foldName) ?_
    · rwa [List.map_map] at folded
    · intro column member other otherMember
      obtain ⟨definition, definitionMember, rfl⟩ := List.mem_map.mp member
      obtain ⟨definition', definitionMember', rfl⟩ := List.mem_map.mp otherMember
      exact usable.cased _ (mem_allColumns_of_mem definitionMember) _
        (mem_allColumns_of_mem definitionMember')

theorem plain_primaryOf (field : Field) :
    isQualified (mapping.layout.primaryOf field) = false :=
  usable.plain _ (Layout.primaryOf_mem_allColumns (usable.maps field))

theorem has_column {field : Field} {column : String}
    (member : column ∈ mapping.layout.columnsOf field) : (freshTable mapping).Has column := by
  obtain ⟨definition, definitionMember, rfl⟩ := exists_definition member
  exact Table.has_of_mem (tidy_freshTable usable) definitionMember

end Usable

/-! ## Rows -/

section Usable

variable {mapping : Mapping} (usable : mapping.Usable)
include usable

theorem exists_primary (field : Field) :
    ∃ definition ∈ (freshTable mapping).columns,
      definition.name = mapping.layout.primaryOf field :=
  exists_definition (Layout.primaryOf_mem_columnsOf (usable.maps field))

/-- The fields have columns of their own in the table. -/
theorem placed_freshTable : mapping.layout.Placed (freshTable mapping) where
  has field := has_column usable (Layout.primaryOf_mem_columnsOf (usable.maps field))
  apart := by
    intro field other same
    obtain ⟨definition, member, name⟩ := exists_primary usable field
    obtain ⟨definition', member', name'⟩ := exists_primary usable other
    rw [← name, ← name'] at same
    have equal := Table.eq_of_positionOf (tidy_freshTable usable) member member' same
    exact usable.apart field other (name.symm.trans (equal ▸ name'))

/-- The row of a binding leaves out no required cell. -/
theorem missing?_bindingRow (binding : Binding) :
    (freshTable mapping).missing? (mapping.layout.bindingRow (freshTable mapping) binding) =
      none := by
  refine Table.missing?_eq_none (tidy_freshTable usable) ?_
  intro definition member required
  obtain ⟨field, primary⟩ := exists_primaryOf_of_required member required
  rw [← primary]
  exact Option.isSome_iff_exists.mpr
    ⟨_, Layout.lookup_bindingCells (placed_freshTable usable) binding field⟩

end Usable

end Store

end EntryStore
