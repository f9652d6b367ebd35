import EntryStore.Proofs.Mapping

/-!
# Stored names are stable

What a mapping stores for a name is checked in pieces and computed as a whole.  It is a name all
the same, and one on which neither the check nor the normal form does anything more, so that a
mapping can be built again from what it stores.
-/

namespace EntryStore

open Identifier (NormalForm IsName IsAscii)

variable {normalize : String → String}

/-- A name that is safe in a statement and is left as it is where it is checked again. -/
structure Identifier.Stable (normalize : String → String) (name : String) : Prop where
  named : IsName name
  ascii : IsAscii name
  accepted : check normalize name = .ok ()
  fixed : normalize name = name

namespace Identifier

variable {name : String}

theorem IsName.stable (laws : NormalForm normalize) (named : IsName name) :
    Stable normalize name where
  named := named
  ascii := isAscii_of_isName named
  accepted := check_of_isName laws named
  fixed := laws.ascii name (isAscii_of_isName named)

theorem Stable.accept (stable : Stable normalize name) :
    Identifier.accept normalize name = .ok name := by
  rw [Identifier.accept, stable.accepted, stable.fixed]
  rfl

end Identifier

namespace Mapping

open Identifier (Stable)

/-- A mapping that comes from a sequence of assignments of columns to fields, or from a JSON
text. -/
inductive Obtained (normalize : String → String) (mapping : Mapping) : Prop where
  | drafted (table : String) (entries : List (Field × List String)) :
      ((Draft.new table).mapAll entries).build normalize = .ok mapping → Obtained normalize mapping
  | read (text : String) : ofJson normalize text = .ok mapping → Obtained normalize mapping

theorem Obtained.checked {mapping : Mapping} (obtained : mapping.Obtained normalize) :
    mapping.Checked normalize := by
  cases obtained with
  | drafted table entries built => exact ⟨_, built⟩
  | read text read => exact checked_of_ofJson read

/-- The mapped fields with the columns that are stored for them, in the order of the fields. -/
def entries (mapping : Mapping) : List (Field × List String) :=
  Field.all.filterMap fun field => (mapping.columns.get field).map fun names => (field, names)

/-- All names of a mapping are stable, no field is mapped to an empty list, and the stored names
make the mapping again, in whatever order they are assigned. -/
structure IsStable (normalize : String → String) (mapping : Mapping) : Prop where
  table : Stable normalize mapping.table
  columns : ∀ field names, mapping.columns.get field = some names →
    names ≠ [] ∧ ∀ name ∈ names, Stable normalize name
  rebuilt : ∀ entries, entries.Perm mapping.entries →
    ((Draft.new mapping.table).mapAll entries).build normalize = .ok mapping

/-! ## Building again -/

theorem Draft.map_comm (draft : Draft) {field other : Field} (differs : field ≠ other)
    (columns columns' : List String) :
    (draft.map field columns).map other columns' = (draft.map other columns').map field columns := by
  cases field <;> cases other <;> first | rfl | exact absurd rfl differs

theorem get_of_mem_entries {mapping : Mapping} {entry : Field × List String}
    (member : entry ∈ mapping.entries) : mapping.columns.get entry.1 = some entry.2 := by
  obtain ⟨field, _, stored⟩ := List.mem_filterMap.mp member
  obtain ⟨names, found, rfl⟩ := Option.map_eq_some_iff.mp stored
  exact found

/-- A field comes once among the entries of a mapping, so that their order does not matter. -/
theorem mapAll_of_perm {mapping : Mapping} {entries : List (Field × List String)}
    (perm : entries.Perm mapping.entries) :
    (Draft.new mapping.table).mapAll entries = ⟨mapping.table, mapping.columns⟩ := by
  have ordered : (Draft.new mapping.table).mapAll mapping.entries =
      ⟨mapping.table, mapping.columns⟩ := by
    obtain ⟨table, owner, key, value⟩ := mapping
    cases owner <;> cases key <;> cases value <;> rfl
  rw [← ordered]
  refine perm.foldl_eq' ?_ _
  intro entry member other otherMember draft
  have stored := get_of_mem_entries (perm.mem_iff.mp member)
  have otherStored := get_of_mem_entries (perm.mem_iff.mp otherMember)
  by_cases same : entry.1 = other.1
  · rw [same, otherStored] at stored
    rw [Prod.ext same (Option.some.inj stored).symm]
  · exact draft.map_comm same entry.2 other.2

theorem Draft.acceptName_of_stable {name : String} (stable : Stable normalize name) :
    acceptName normalize name = .ok name := by
  rw [acceptName, stable.accept]
  rfl

theorem Draft.acceptColumns_of_stable {columns? : Option (List String)}
    (stable : ∀ names, columns? = some names →
      names ≠ [] ∧ ∀ name ∈ names, Stable normalize name) (table : String) (field : Field) :
    acceptColumns normalize table field columns? = .ok columns? := by
  cases columns? with
  | none => rfl
  | some names =>
      obtain ⟨nonempty, each⟩ := stable names rfl
      have accepted : names.mapM (acceptName normalize) = .ok (names.map id) :=
        Outcome.mapM_eq_ok fun name member => acceptName_of_stable (each name member)
      rw [List.map_id] at accepted
      obtain ⟨first, others, rfl⟩ := List.exists_cons_of_ne_nil nonempty
      rw [acceptColumns, accepted]
      · rfl
      · exact List.cons_ne_nil _ _

/-- A draft of stable names is accepted as it is. -/
theorem build_of_stable {mapping : Mapping} (table : Stable normalize mapping.table)
    (columns : ∀ field names, mapping.columns.get field = some names →
      names ≠ [] ∧ ∀ name ∈ names, Stable normalize name) :
    Draft.build normalize ⟨mapping.table, mapping.columns⟩ = .ok mapping := by
  have owner : Draft.acceptColumns normalize mapping.table .owner mapping.columns.owner =
      .ok mapping.columns.owner := Draft.acceptColumns_of_stable (columns .owner) _ _
  have key : Draft.acceptColumns normalize mapping.table .key mapping.columns.key =
      .ok mapping.columns.key := Draft.acceptColumns_of_stable (columns .key) _ _
  have value : Draft.acceptColumns normalize mapping.table .value mapping.columns.value =
      .ok mapping.columns.value := Draft.acceptColumns_of_stable (columns .value) _ _
  simp only [Draft.build, Draft.acceptName_of_stable table, bind, Except.bind, owner, key, value]
  rfl

/-- Whatever a mapping comes from, its names are stable, and make the mapping again. -/
theorem names_stable (laws : NormalForm normalize) {mapping : Mapping}
    (obtained : mapping.Obtained normalize) : mapping.IsStable normalize := by
  have sound := obtained.checked.sound laws
  have table : Stable normalize mapping.table := sound.table.stable laws
  have columns : ∀ field names, mapping.columns.get field = some names →
      names ≠ [] ∧ ∀ name ∈ names, Stable normalize name := by
    intro field names stored
    obtain ⟨nonempty, named⟩ := sound.columns field names stored
    exact ⟨nonempty, fun name member => (named name member).stable laws⟩
  refine ⟨table, columns, ?_⟩
  intro entries perm
  rw [mapAll_of_perm perm]
  exact build_of_stable table columns

/-! ## Names in full width -/

/-- The ASCII character of a character in full width; other characters stand for themselves. -/
def narrow (c : Char) : Char :=
  if 0xFF01 ≤ c.toNat ∧ c.toNat ≤ 0xFF5E then Char.ofNat (c.toNat - 0xFEE0) else c

/-- A text with its characters in full width made ASCII. -/
def narrowed (text : String) : String := String.ofList (text.toList.map narrow)

theorem normalForm_narrowed : NormalForm narrowed where
  ascii := by
    intro text ascii
    have same : ∀ c ∈ text.toList, narrow c = id c := by
      intro c member
      have small := ascii c member
      exact if_neg (by omega)
    rw [narrowed, List.map_congr_left same, List.map_id, String.ofList_toList]
  point := by
    intro left right _ _
    have point : narrow '.' = '.' := rfl
    simp [narrowed, ← String.toList_inj, point]

theorem names_stable_sample :
    Mapping.IsStable narrowed
      ⟨"main.meta", ⟨some ["id"], none, some ["value", "type"]⟩⟩ :=
  names_stable normalForm_narrowed (.drafted "main.ｍｅｔａ"
    [(.value, ["select"]), (.owner, ["ｉｄ"]), (.value, ["value", "ｔｙｐｅ"])] rfl)

end Mapping

end EntryStore
