import EntryStore.Proofs.Sql.Columns
import Mathlib.Data.List.TakeDrop
import Mathlib.Data.List.TakeWhile

/-!
# Changed rows

What overwriting does to each cell of a row, and what putting a changed table into a database
does to the tables that are found there.
-/

namespace EntryStore.Sql

/-! ## Names in either case -/

theorem toLower_eq_point_iff {c : Char} : c.toLower = '.' ↔ c = '.' := by
  unfold Char.toLower
  constructor
  · intro same
    split at same
    · next upper =>
        exfalso
        have low := UInt32.le_iff_toNat_le.mp upper.1
        have high := UInt32.le_iff_toNat_le.mp upper.2
        have codes := congrArg (fun c : Char => c.val.toNat) same
        simp only [UInt32.toNat_add] at codes
        have first : 'A'.val.toNat = 65 := rfl
        have last : 'Z'.val.toNat = 90 := rfl
        have shift : ('a'.val - 'A'.val).toNat = 32 := rfl
        have point : '.'.val.toNat = 46 := rfl
        omega
    · exact same
  · rintro rfl
    rfl

theorem isQualified_iff {name : String} : isQualified name = true ↔ '.' ∈ name.toList := by
  have stops : name.toList.dropWhile (· != '.') = [] ↔ '.' ∉ name.toList := by
    rw [List.dropWhile_eq_nil_iff]
    constructor
    · intro each member
      exact absurd (each '.' member) (by decide)
    · intro absent c member
      rw [bne_iff_ne]
      rintro rfl
      exact absent member
  unfold isQualified splitName
  rw [List.span_eq_takeWhile_dropWhile]
  cases rest : name.toList.dropWhile (· != '.') with
  | nil => simpa using stops.mp rest
  | cons c rest' =>
      rw [rest] at stops
      simpa using stops

theorem mem_foldName_iff {name : String} : '.' ∈ (foldName name).toList ↔ '.' ∈ name.toList := by
  unfold foldName
  rw [String.toList_ofList, List.mem_map]
  constructor
  · rintro ⟨c, member, same⟩
    rwa [← toLower_eq_point_iff.mp same]
  · intro member
    exact ⟨'.', member, rfl⟩

/-- Names that differ in the case of letters alone are both qualified or both plain. -/
theorem isQualified_congr {left right : String} (same : foldName left = foldName right) :
    isQualified left = isQualified right := by
  rw [Bool.eq_iff_iff, isQualified_iff, isQualified_iff, ← mem_foldName_iff, same,
    mem_foldName_iff]

namespace Table

variable {table : Table}

/-- A column is found by its name in either case. -/
theorem position?_congr {left right : String} (plain : isQualified left = false)
    (same : foldName left = foldName right) : table.position? left = table.position? right := by
  have plain' : isQualified right = false := isQualified_congr same ▸ plain
  unfold position?
  rw [splitName_of_plain plain, splitName_of_plain plain']
  simp only [sameName, same]

/-- The table has a column of this name, in either case. -/
def Names (table : Table) (column : String) : Prop :=
  ∃ definition ∈ table.columns, foldName definition.name = foldName column

instance (table : Table) (column : String) : Decidable (table.Names column) :=
  inferInstanceAs (Decidable (∃ definition ∈ table.columns,
    foldName definition.name = foldName column))

section Tidy

variable (tidy : table.Tidy) {column : String}
include tidy

theorem plain_of_names (names : table.Names column) : isQualified column = false := by
  obtain ⟨definition, member, same⟩ := names
  rw [← isQualified_congr same]
  exact tidy.plain definition member

theorem has_of_names (names : table.Names column) : table.Has column := by
  obtain ⟨definition, member, same⟩ := names
  unfold Has
  rw [← position?_congr (tidy.plain definition member) same]
  exact has_of_mem tidy member

theorem positionOf_lt_of_names (names : table.Names column) :
    table.positionOf column < table.columns.length := by
  obtain ⟨definition, member, same⟩ := names
  unfold positionOf
  rw [← position?_congr (tidy.plain definition member) same]
  exact positionOf_lt tidy member

/-- Different names have different positions. -/
theorem foldName_eq_of_positionOf {other : String} (names : table.Names column)
    (otherNames : table.Names other) (same : table.positionOf column = table.positionOf other) :
    foldName column = foldName other := by
  obtain ⟨definition, member, named⟩ := names
  obtain ⟨definition', member', named'⟩ := otherNames
  unfold positionOf at same
  rw [← position?_congr (tidy.plain definition member) named,
    ← position?_congr (tidy.plain definition' member') named'] at same
  rw [← named, ← named', eq_of_positionOf tidy member member' same]

end Tidy

/-! ## Overwriting -/

theorem length_overwrite (row : Row) (cells : List (Nat × String)) :
    (overwrite row cells).length = row.length := by
  induction cells generalizing row with
  | nil => rfl
  | cons cell cells ih => exact (ih _).trans List.length_set

/-- What is not written is kept. -/
theorem getElem?_overwrite_of_ne {row : Row} {cells : List (Nat × String)} {position : Nat}
    (elsewhere : ∀ cell ∈ cells, cell.1 ≠ position) :
    (overwrite row cells)[position]? = row[position]? := by
  induction cells generalizing row with
  | nil => rfl
  | cons cell cells ih =>
      obtain ⟨first, others⟩ := List.forall_mem_cons.mp elsewhere
      exact (ih others).trans (List.getElem?_set_ne first)

/-- Of several texts for one cell the last one is there. -/
theorem getElem?_overwrite_last {row : Row} {earlier later : List (Nat × String)}
    {position : Nat} {text : String} (inside : position < row.length)
    (last : ∀ cell ∈ later, cell.1 ≠ position) :
    (overwrite row (earlier ++ (position, text) :: later))[position]? = some (some text) := by
  have split : overwrite row (earlier ++ (position, text) :: later) =
      overwrite ((overwrite row earlier).set position (some text)) later :=
    List.foldl_append
  rw [split, getElem?_overwrite_of_ne last]
  exact List.getElem?_set_self (by rwa [length_overwrite])

end Table

/-! ## Replacing tables -/

namespace Database

variable {database : Database} {table : Table} {name : String}

/-- Under the name of a table that has been replaced its replacement is found. -/
theorem find?_replace (found : database.find? name = some table) (rows : List Row) :
    (database.replace { table with rows := rows }).find? name =
      some { table with rows := rows } := by
  unfold find? replace at *
  cases parts : splitName name with
  | mk schema? own =>
      rw [parts] at found
      simp only at found ⊢
      split at found
      · next here =>
          rw [if_pos here]
          have itself : foldName table.name = foldName own :=
            sameName_iff.mp (List.find?_some found :)
          have kept : ((fun candidate : Table => sameName candidate.name own) ∘ fun other =>
              if sameName other.name table.name then { table with rows := rows } else other) =
              fun candidate => sameName candidate.name own := by
            funext other
            rw [Function.comp_apply]
            split
            · next same =>
                simp only [sameName] at same ⊢
                rw [itself, beq_self_eq_true, ← itself, same]
            · rfl
          rw [List.find?_map, kept, found, Option.map_some, sameName_self, if_pos rfl]
      · cases found

/-- The last of two replacements of a table stays. -/
theorem replace_replace (database : Database) (table : Table) (rows others : List Row) :
    (database.replace { table with rows := rows }).replace { table with rows := others } =
      database.replace { table with rows := others } := by
  refine congrArg Database.mk (List.map_map.trans ?_)
  apply List.map_congr_left
  intro other _
  rw [Function.comp_apply]
  by_cases same : sameName other.name table.name = true
  · rw [if_pos same, if_pos same, if_pos (sameName_self _)]
  · rw [if_neg same, if_neg same]

end Database

end EntryStore.Sql
