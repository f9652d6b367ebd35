import EntryStore.Proofs.Sql.Execution
import Mathlib.Data.List.Nodup

/-!
# Columns side by side

In a tidy table no two columns have the same name, and none has a name with a point.  Each
column is then found by its name, and at its own position.
-/

namespace EntryStore.Sql

theorem splitName_of_plain {name : String} (plain : isQualified name = false) :
    splitName name = (none, name) := by
  unfold isQualified at plain
  unfold splitName at plain ⊢
  split at plain
  · cases plain
  · rfl

@[simp] theorem sameName_self (name : String) : sameName name name = true := beq_self_eq_true _

theorem sameName_iff {left right : String} :
    sameName left right = true ↔ foldName left = foldName right := beq_iff_eq

namespace Table

/-- A table whose columns have different names without points. -/
structure Tidy (table : Table) : Prop where
  plain : ∀ definition ∈ table.columns, isQualified definition.name = false
  distinct : (table.columns.map fun definition => foldName definition.name).Nodup

variable {table : Table}

/-- A column is found at its own position. -/
theorem position?_getElem (tidy : table.Tidy) {position : Nat}
    (inside : position < table.columns.length) :
    table.position? table.columns[position].name = some position := by
  have plain := tidy.plain _ (List.getElem_mem inside)
  unfold position?
  rw [splitName_of_plain plain]
  rw [List.findIdx?_eq_some_iff_getElem]
  refine ⟨inside, sameName_self _, ?_⟩
  intro earlier before same
  let folded := table.columns.map fun definition => foldName definition.name
  have length : folded.length = table.columns.length := List.length_map _
  have earlierInside : earlier < folded.length := by omega
  have positionInside : position < folded.length := by omega
  have equal : folded[earlier] = folded[position] := by
    rw [List.getElem_map, List.getElem_map]
    exact sameName_iff.mp same
  have equalPositions := tidy.distinct.getElem_inj_iff.mp equal
  omega

theorem has_of_mem (tidy : table.Tidy) {definition : ColumnDefinition}
    (member : definition ∈ table.columns) : table.Has definition.name := by
  obtain ⟨position, inside, rfl⟩ := List.getElem_of_mem member
  rw [Has, position?_getElem tidy inside]
  rfl

/-- The column at the position of a name has the name. -/
theorem getElem?_positionOf (tidy : table.Tidy) {definition : ColumnDefinition}
    (member : definition ∈ table.columns) :
    table.columns[table.positionOf definition.name]? = some definition := by
  obtain ⟨position, inside, rfl⟩ := List.getElem_of_mem member
  rw [positionOf, position?_getElem tidy inside]
  exact List.getElem?_eq_getElem inside

theorem positionOf_lt (tidy : table.Tidy) {definition : ColumnDefinition}
    (member : definition ∈ table.columns) :
    table.positionOf definition.name < table.columns.length :=
  (List.getElem?_eq_some_iff.mp (getElem?_positionOf tidy member)).1

/-- Columns at one position are one column. -/
theorem eq_of_positionOf (tidy : table.Tidy) {left right : ColumnDefinition}
    (leftMember : left ∈ table.columns) (rightMember : right ∈ table.columns)
    (same : table.positionOf left.name = table.positionOf right.name) : left = right := by
  have found := getElem?_positionOf tidy leftMember
  rw [same, getElem?_positionOf tidy rightMember] at found
  exact (Option.some.inj found).symm

/-! ## Cells of new rows -/

theorem length_newRow (cells : List (Nat × String)) :
    (table.newRow cells).length = table.columns.length := by
  rw [newRow, List.length_map, List.length_range]

theorem getElem?_newRow {cells : List (Nat × String)} {position : Nat}
    (inside : position < table.columns.length) :
    (table.newRow cells)[position]? = some (cells.lookup position) := by
  rw [newRow, List.getElem?_map, List.getElem?_range inside]
  rfl

/-- A row that fills all required columns leaves none of them out. -/
theorem missing?_eq_none (tidy : table.Tidy) {cells : List (Nat × String)}
    (fills : ∀ definition ∈ table.columns, definition.required = true →
      (cells.lookup (table.positionOf definition.name)).isSome = true) :
    table.missing? (table.newRow cells) = none := by
  unfold missing?
  rw [Option.map_eq_none_iff, List.find?_eq_none]
  rintro ⟨definition, cell⟩ member
  obtain ⟨position, inside, same⟩ := List.getElem_of_mem member
  rw [List.getElem_zip, Prod.mk.injEq] at same
  obtain ⟨rfl, rfl⟩ := same
  have here : position < table.columns.length := by
    rw [List.length_zip] at inside
    omega
  have filled := fills _ (List.getElem_mem here)
  rw [positionOf, position?_getElem tidy here] at filled
  simp only [Option.getD_some] at filled
  simp only [Bool.and_eq_true, not_and]
  intro required
  simp [newRow, filled required, ← Option.not_isSome]

end Table

/-! ## Creating tables -/

namespace Database

theorem checkDefinitions_eq_ok {earlier : List String} {columns : List ColumnDefinition}
    (plain : ∀ definition ∈ columns, isQualified definition.name = false)
    (distinct : (columns.map fun definition => foldName definition.name).Nodup)
    (fresh : ∀ definition ∈ columns, ∀ name ∈ earlier, foldName definition.name ≠ foldName name) :
    checkDefinitions earlier columns = .ok () := by
  induction columns generalizing earlier with
  | nil => rfl
  | cons definition columns ih =>
      obtain ⟨first, others⟩ := List.forall_mem_cons.mp plain
      rw [List.map_cons, List.nodup_cons] at distinct
      have unused : earlier.any (sameName definition.name) = false := by
        rw [List.any_eq_false]
        intro name member same
        exact fresh definition List.mem_cons_self name member (sameName_iff.mp same)
      unfold checkDefinitions
      rw [first, unused]
      refine ih others distinct.2 ?_
      intro other otherMember name member
      rcases List.mem_cons.mp member with rfl | old
      · intro same
        exact distinct.1 (same ▸ List.mem_map_of_mem otherMember)
      · exact fresh other (List.mem_cons_of_mem _ otherMember) name old

/-- A name that is written without a schema, or with that of the database. -/
def IsHere (name : String) : Prop := (splitName name).1.all (sameName mainSchema) = true

instance (name : String) : Decidable (IsHere name) :=
  inferInstanceAs (Decidable ((splitName name).1.all (sameName mainSchema) = true))

variable {database : Database} {name : String} {columns : List ColumnDefinition}

theorem create_eq_createHere (here : IsHere name) :
    database.create name columns = create.createHere database columns (splitName name).2 := by
  unfold IsHere at here
  unfold create
  generalize splitName name = parts at here
  rcases parts with ⟨_ | schema, table⟩
  · rfl
  · have same : sameName schema mainSchema = true := sameName_iff.mpr (sameName_iff.mp here).symm
    simp only [same, if_true]

/-- A database without tables gets the table of a tidy definition. -/
theorem create_empty (here : IsHere name) (tidy : (Table.mk (splitName name).2 columns []).Tidy) :
    empty.create name columns = .ok ⟨[⟨(splitName name).2, columns, []⟩]⟩ := by
  have checked : checkDefinitions [] columns = .ok () :=
    checkDefinitions_eq_ok tidy.plain tidy.distinct fun _ _ _ member => nomatch member
  rw [create_eq_createHere here, create.createHere]
  simp only [empty, List.any_nil, Bool.false_eq_true, if_false, checked]
  rfl

/-- A database keeps the table that it has. -/
theorem create_of_any (here : IsHere name)
    (known : (database.tables.any fun other => sameName other.name (splitName name).2) = true)
    (plain : ∀ definition ∈ columns, isQualified definition.name = false) :
    database.create name columns = .ok database := by
  rw [create_eq_createHere here, create.createHere, if_pos known,
    checkPlain_eq_ok (List.forall_mem_map.mpr plain)]
  rfl

theorem execute_create {meaning : PatternMeaning} {after : Database}
    (created : database.create name columns = .ok after) :
    database.execute meaning (.create name columns) [] = .ok (.affected 0, after) := by
  rw [execute, created]
  rfl

end Database

end EntryStore.Sql
