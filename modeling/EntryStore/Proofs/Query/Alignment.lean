import EntryStore.Proofs.Query.Shape
import EntryStore.Proofs.Sql.Marks

/-!
# Placeholders and parameters

A query binds a value for each of its items: its assignments, then its conditions.  The text of
the compiled query has one placeholder for each item, which stands behind the column of the
item, and the parameter of the same number is that of the item's value.
-/

namespace EntryStore

open Sql (Prepared IsMark Cut commaSeparated)
open Identifier (NormalForm)

namespace Query

/-- What a query binds a value for. -/
inductive Item where
  | assigned (assignment : Assignment)
  | compared (condition : Condition)

namespace Item

def field : Item → Field
  | .assigned assignment => assignment.field
  | .compared condition => condition.field

def value : Item → Value
  | .assigned assignment => assignment.value
  | .compared condition => condition.value

/-- What stands between the column of an item and its placeholder, outside insertions. -/
def operator : Item → String
  | .assigned _ => " = "
  | .compared _ => " REGEXP "

end Item

/-- Assignments in the order of their calls, then conditions in the order of theirs. -/
def items (query : Query) : List Item :=
  query.assignments.map .assigned ++ query.conditions.map .compared

/-- The number of values that a query binds. -/
def size : Query → Nat
  | .act (.select _) filter => filter.size
  | .act (.update assignments) filter => assignments.length + filter.size
  | .act .delete filter => filter.size
  | .insert assignments => assignments.length

/-- A text ends where the placeholder of an item belongs.  In an insertion as many values stand
in front of it as columns in front of the item's; elsewhere the item's column does, with a
blank before it. -/
def Precedes (layout : Layout) (query : Query) (index : Nat) (item : Item) (front : String) :
    Prop :=
  match query with
  | .insert assignments =>
      let columns := assignments.map fun assignment => layout.primaryOf assignment.field
      columns[index]? = some (layout.primaryOf item.field) ∧
        front = "INSERT INTO " ++ layout.table ++ " (" ++ commaSeparated columns ++ ") VALUES (" ++
          String.join (List.replicate index "?, ")
  | .act _ _ =>
      ∃ lead, front = lead ++ " " ++ layout.primaryOf item.field ++ item.operator

theorem length_items (query : Query) : query.items.length = query.size := by
  unfold items
  rw [List.length_append, List.length_map, List.length_map]
  rcases query with ⟨_ | _ | _, filter⟩ | _
  · exact Nat.zero_add _
  · rfl
  · exact Nat.zero_add _
  · rfl

/-- The parameters of a query are those of its items. -/
theorem params_eq (query : Query) : query.params = query.items.map (·.value.parameter) := by
  unfold params items
  rw [List.map_append, List.map_map, List.map_map]
  rfl

section Pieces

variable {layout : Layout} {index : Nat} {item : Item}

/-- The piece of an item ends with its column. -/
theorem getElem?_pieces (layout : Layout) {assignments : List Assignment} {conditions : List Condition}
    (here : (assignments.map Item.assigned ++ conditions.map Item.compared)[index]? = some item) :
    ∃ lead, (Sql.assignmentPieces (assignments.map fun assignment =>
        layout.primaryOf assignment.field) ++ Sql.clausePieces (layout.terms conditions))[index]? =
      some (lead ++ " " ++ layout.primaryOf item.field ++ item.operator) := by
  have length : (Sql.assignmentPieces (assignments.map fun assignment =>
      layout.primaryOf assignment.field)).length = assignments.length := by
    rw [Sql.length_assignmentPieces, List.length_map]
  rcases Nat.lt_or_ge index assignments.length with inside | behind
  · rw [List.getElem?_append_left (by rwa [List.length_map]), List.getElem?_map,
      Option.map_eq_some_iff] at here
    obtain ⟨assignment, found, rfl⟩ := here
    have column : (assignments.map fun assignment =>
        layout.primaryOf assignment.field)[index]? =
        some (layout.primaryOf assignment.field) := by
      rw [List.getElem?_map, found]
      rfl
    rw [List.getElem?_append_left (by rwa [length])]
    exact Sql.getElem?_assignmentPieces column
  · rw [List.getElem?_append_right (by rwa [List.length_map]), List.length_map,
      List.getElem?_map, Option.map_eq_some_iff] at here
    obtain ⟨condition, found, rfl⟩ := here
    refine ⟨condition.link.keyword, ?_⟩
    rw [List.getElem?_append_right (by rwa [length]), length]
    unfold Sql.clausePieces Layout.terms
    rw [List.map_map, List.getElem?_map, found]
    rfl

theorem length_pieces (layout : Layout) (query : Query) :
    (query.shape layout).cut.pieces.length = query.size := by
  have terms : ∀ conditions : List Condition,
      (Sql.clausePieces (layout.terms conditions)).length = conditions.length := by
    intro conditions
    rw [Sql.clausePieces, List.length_map, Layout.terms, List.length_map]
  rcases query with ⟨_ | assignments | _, filter⟩ | assignments
  · exact terms filter.conditions
  · change (Sql.assignmentPieces _ ++ Sql.clausePieces _).length = _
    rw [List.length_append, terms, Sql.length_assignmentPieces, List.length_map]
    rfl
  · exact terms filter.conditions
  · change (Sql.valuePieces _).length = _
    rw [Sql.length_valuePieces, List.length_map]
    rfl

/-- The text in front of an item's placeholder ends as it should. -/
theorem exists_isMark {query : Query} (clean : (query.shape layout).cut.Clean)
    (here : query.items[index]? = some item) :
    ∃ front back, IsMark (query.shape layout).cut.text index front back ∧
      query.Precedes layout index item front := by
  cases query with
  | act action filter =>
      have pieces : ∃ lead, (shape layout (.act action filter)).cut.pieces[index]? =
          some (lead ++ " " ++ layout.primaryOf item.field ++ item.operator) := by
        have found := getElem?_pieces layout here
        cases action with
        | select fields => exact found
        | update assignments => exact found
        | delete => exact found
      obtain ⟨lead, piece⟩ := pieces
      obtain ⟨back, mark⟩ := Cut.isMark_text clean piece
      refine ⟨_, back, mark, (shape layout (.act action filter)).cut.before index ++ lead, ?_⟩
      simp only [String.append_assoc]
  | insert assignments =>
      obtain ⟨assignment, found, rfl⟩ : ∃ assignment, assignments[index]? = some assignment ∧
          Item.assigned assignment = item := by
        unfold items at here
        rw [conditions, List.map_nil, List.append_nil, List.getElem?_map,
          Option.map_eq_some_iff] at here
        exact here
      have column : (assignments.map fun assignment =>
          layout.primaryOf assignment.field)[index]? =
          some (layout.primaryOf assignment.field) := by
        rw [List.getElem?_map, found]
        rfl
      obtain ⟨piece, value, before⟩ :=
        Sql.before_valuePieces (List.getElem?_eq_some_iff.mp column).1
      obtain ⟨back, mark⟩ := Cut.isMark_text clean value
      refine ⟨_, back, mark, column, ?_⟩
      unfold Cut.before
      rw [String.append_assoc]
      exact congrArg _ before

end Pieces

variable {normalize : String → String} {mapping : Mapping}

/-- In the text of a compiled query each item has its placeholder behind its column, and the
parameter of the same number is that of the item's value; there are no other placeholders or
parameters. -/
theorem compile_aligned (laws : NormalForm normalize) (checked : mapping.Checked normalize)
    {query : Query} (built : query.Built) {prepared : Prepared}
    (compiled : query.compile mapping.layout = .ok prepared) :
    prepared.placeholders = query.size ∧ prepared.params.length = query.size ∧
      ∀ index item, query.items[index]? = some item →
        prepared.params[index]? = some item.value.parameter ∧
          ∃ front back, IsMark prepared.sql index front back ∧
            query.Precedes mapping.layout index item front := by
  obtain ⟨complete, rfl⟩ := (compile_yields _).of_ok compiled
  have words : (query.shape mapping.layout).AllNames Sql.IsWord :=
    (allNames_shape (checked.sound laws) complete).imp fun _ => Sql.isWord_of_isName
  have clean := Sql.Statement.clean_cut words
  have text : (query.shape mapping.layout).cut.text = (query.shape mapping.layout).print :=
    Sql.Statement.text_cut (regular_shape built.linked complete)
  refine ⟨?_, ?_, ?_⟩
  · change (query.shape mapping.layout).print.toList.count '?' = _
    rw [← text, Cut.count_text clean, length_pieces]
  · change query.params.length = _
    rw [params_eq, List.length_map, length_items]
  · intro index item here
    constructor
    · change query.params[index]? = _
      rw [params_eq, List.getElem?_map, here]
      rfl
    · obtain ⟨front, back, mark, precedes⟩ := exists_isMark clean here
      rw [text] at mark
      exact ⟨front, back, mark, precedes⟩

theorem compile_aligned_sample :
    (Prepared.mk "UPDATE test SET value = ?, uuid = ? WHERE identifier REGEXP ?;"
        ["a?b", "?", "k?"] 0).placeholders = 3 ∧
      ∃ front back, IsMark "UPDATE test SET value = ?, uuid = ? WHERE identifier REGEXP ?;" 2
          front back ∧ ∃ lead, front = lead ++ " " ++ "identifier" ++ " REGEXP " := by
  have valueSet : (Query.act (.update [⟨.value, .text "a?b"⟩]) .empty).Built :=
    @Built.step _ _ (.set .value (.text "a?b")) .update rfl
  have ownerSet : (Query.act (.update [⟨.value, .text "a?b"⟩, ⟨.owner, .text "?"⟩])
      .empty).Built := @Built.step _ _ (.set .owner (.text "?")) valueSet rfl
  have built : (Query.act (.update [⟨.value, .text "a?b"⟩, ⟨.owner, .text "?"⟩])
      ⟨[⟨.key, .text "k?", .init⟩]⟩).Built :=
    @Built.step _ _ (.filter .key (.text "k?")) ownerSet rfl
  have compiled : (Query.act (.update [⟨.value, .text "a?b"⟩, ⟨.owner, .text "?"⟩])
      ⟨[⟨.key, .text "k?", .init⟩]⟩).compile Mapping.sample.layout =
      .ok ⟨"UPDATE test SET value = ?, uuid = ? WHERE identifier REGEXP ?;",
        ["a?b", "?", "k?"], 0⟩ := rfl
  obtain ⟨counted, _, each⟩ :=
    compile_aligned Identifier.normalForm_id Mapping.checked_sample built compiled
  exact ⟨counted, (each 2 (.compared ⟨.key, .text "k?", .init⟩) rfl).2⟩

end Query

end EntryStore
