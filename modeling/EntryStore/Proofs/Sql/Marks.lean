import EntryStore.Proofs.Sql.Grammar

/-!
# Placeholders in texts

The text of a statement is cut in front of its placeholders.  The pieces hold no question mark,
so that the placeholders of the text are those behind the pieces, in their order.
-/

namespace EntryStore

/-- The keyword in front of a condition with this link. -/
def Link.keyword : Link → String
  | .init => " WHERE"
  | .and => " AND"
  | .or => " OR"

namespace Sql

/-- The placeholder with the given number, counted from zero, stands between two texts. -/
structure IsMark (sql : String) (index : Nat) (front back : String) : Prop where
  text : sql = front ++ placeholder ++ back
  counted : front.toList.count '?' = index

/-- A text without question marks. -/
def Unmarked (text : String) : Prop := '?' ∉ text.toList

instance (text : String) : Decidable (Unmarked text) :=
  inferInstanceAs (Decidable ('?' ∉ text.toList))

/-- A text cut in front of its placeholders. -/
structure Cut where
  head : String
  /-- each stands in front of a placeholder -/
  pieces : List String
  tail : String

namespace Cut

/-- The text that has been cut. -/
def text (cut : Cut) : String :=
  cut.head ++ String.join (cut.pieces.map (· ++ placeholder)) ++ cut.tail

/-- The text in front of a piece. -/
def before (cut : Cut) (index : Nat) : String :=
  cut.head ++ String.join ((cut.pieces.take index).map (· ++ placeholder))

/-- A cut that has left no question mark but those of the placeholders. -/
structure Clean (cut : Cut) : Prop where
  head : Unmarked cut.head
  pieces : ∀ piece ∈ cut.pieces, Unmarked piece
  tail : Unmarked cut.tail

end Cut

/-! ## Counting -/

theorem count_of_unmarked {text : String} (unmarked : Unmarked text) :
    text.toList.count '?' = 0 := List.count_eq_zero.mpr unmarked

theorem unmarked_append_iff {left right : String} :
    Unmarked (left ++ right) ↔ Unmarked left ∧ Unmarked right := by
  unfold Unmarked
  rw [String.toList_append, List.mem_append, not_or]

theorem unmarked_join {items : List String} (unmarked : ∀ item ∈ items, Unmarked item) :
    Unmarked (String.join items) := by
  induction items with
  | nil => decide
  | cons item items ih =>
      obtain ⟨first, others⟩ := List.forall_mem_cons.mp unmarked
      rw [String.join_cons]
      exact unmarked_append_iff.mpr ⟨first, ih others⟩

theorem unmarked_commaSeparated {items : List String}
    (unmarked : ∀ item ∈ items, Unmarked item) : Unmarked (commaSeparated items) := by
  cases items with
  | nil => decide
  | cons item items =>
      obtain ⟨first, others⟩ := List.forall_mem_cons.mp unmarked
      have comma : Unmarked ", " := by decide
      rw [commaSeparated_cons]
      refine unmarked_append_iff.mpr ⟨first, unmarked_join (List.forall_mem_map.mpr ?_)⟩
      exact fun other member => unmarked_append_iff.mpr ⟨comma, others other member⟩

theorem unmarked_of_isWord {name : String} (word : IsWord name) : Unmarked name := by
  intro member
  exact absurd (word.chars _ member) (by decide)

theorem unmarked_commaSeparated_of_isWord {names : List String}
    (words : ∀ name ∈ names, IsWord name) : Unmarked (commaSeparated names) :=
  unmarked_commaSeparated fun name member => unmarked_of_isWord (words name member)

/-- As many question marks as pieces. -/
theorem count_join_pieces {pieces : List String} (unmarked : ∀ piece ∈ pieces, Unmarked piece) :
    (String.join (pieces.map (· ++ placeholder))).toList.count '?' = pieces.length := by
  induction pieces with
  | nil => rfl
  | cons piece pieces ih =>
      obtain ⟨first, others⟩ := List.forall_mem_cons.mp unmarked
      have one : placeholder.toList.count '?' = 1 := rfl
      rw [List.map_cons, String.join_cons, String.toList_append, String.toList_append,
        List.count_append, List.count_append, count_of_unmarked first, one, ih others,
        List.length_cons]
      omega

namespace Cut

variable {cut : Cut}

theorem count_text (clean : cut.Clean) : cut.text.toList.count '?' = cut.pieces.length := by
  unfold text
  rw [String.toList_append, String.toList_append, List.count_append, List.count_append,
    count_of_unmarked clean.head, count_of_unmarked clean.tail, count_join_pieces clean.pieces]
  omega

/-- The placeholder behind a piece has the number of the piece. -/
theorem isMark_text (clean : cut.Clean) {index : Nat} {piece : String}
    (here : cut.pieces[index]? = some piece) :
    ∃ back, IsMark cut.text index (cut.before index ++ piece) back := by
  obtain ⟨inside, rfl⟩ := List.getElem?_eq_some_iff.mp here
  refine ⟨String.join ((cut.pieces.drop (index + 1)).map (· ++ placeholder)) ++ cut.tail, ?_, ?_⟩
  · have split : cut.pieces =
        cut.pieces.take index ++ cut.pieces[index] :: cut.pieces.drop (index + 1) := by
      rw [← List.drop_eq_getElem_cons inside, List.take_append_drop]
    have whole : String.join (cut.pieces.map (· ++ placeholder)) =
        String.join ((cut.pieces.take index).map (· ++ placeholder)) ++
          (cut.pieces[index] ++ placeholder ++
            String.join ((cut.pieces.drop (index + 1)).map (· ++ placeholder))) := by
      conv_lhs => rw [split]
      rw [List.map_append, List.map_cons, String.join_append, String.join_cons]
    unfold text before
    rw [whole]
    simp only [String.append_assoc]
  · have earlier : ∀ piece ∈ cut.pieces.take index, Unmarked piece :=
      fun piece member => clean.pieces piece (List.mem_of_mem_take member)
    unfold before
    rw [String.toList_append, String.toList_append, List.count_append, List.count_append,
      count_of_unmarked clean.head, count_join_pieces earlier,
      count_of_unmarked (clean.pieces _ (List.getElem_mem inside)), List.length_take]
    omega

end Cut

/-! ## Cutting statements -/

/-- What a clause has in front of its placeholders. -/
def clausePieces (clause : List Term) : List String :=
  clause.map fun term => term.link.keyword ++ " " ++ term.column ++ " REGEXP "

/-- What assignments have in front of their placeholders. -/
def assignmentPieces : List String → List String
  | [] => []
  | first :: others =>
      (" " ++ first ++ " = ") :: others.map fun column => ", " ++ column ++ " = "

/-- What the values of an insertion have in front of their placeholders. -/
def valuePieces : List String → List String
  | [] => []
  | _ :: others => "" :: others.map fun _ => ", "

/-- A statement cut in front of its placeholders. -/
def Statement.cut : Statement → Cut
  | .select columns table clause =>
      ⟨"SELECT " ++ commaSeparated columns ++ " FROM " ++ table, clausePieces clause, ";"⟩
  | .update table columns clause =>
      ⟨"UPDATE " ++ table ++ " SET", assignmentPieces columns ++ clausePieces clause, ";"⟩
  | .delete table clause => ⟨"DELETE FROM " ++ table, clausePieces clause, ";"⟩
  | .insert table columns =>
      ⟨"INSERT INTO " ++ table ++ " (" ++ commaSeparated columns ++ ") VALUES (",
        valuePieces columns, ");"⟩
  | .create table columns => ⟨(Statement.create table columns).print, [], ""⟩

theorem unmarked_clausePieces {clause : List Term} (words : ∀ term ∈ clause, IsWord term.column) :
    ∀ piece ∈ clausePieces clause, Unmarked piece := by
  refine List.forall_mem_map.mpr fun term member => ?_
  simp only [unmarked_append_iff, unmarked_of_isWord (words term member)]
  cases term.link <;> decide

theorem unmarked_assignmentPieces {columns : List String}
    (words : ∀ column ∈ columns, IsWord column) :
    ∀ piece ∈ assignmentPieces columns, Unmarked piece := by
  cases columns with
  | nil => exact List.forall_mem_nil _
  | cons first others =>
      obtain ⟨firstWord, otherWords⟩ := List.forall_mem_cons.mp words
      refine List.forall_mem_cons.mpr ⟨?_, List.forall_mem_map.mpr fun column member => ?_⟩
      · simp only [unmarked_append_iff, unmarked_of_isWord firstWord]
        decide
      · simp only [unmarked_append_iff, unmarked_of_isWord (otherWords column member)]
        decide

theorem unmarked_valuePieces (columns : List String) :
    ∀ piece ∈ valuePieces columns, Unmarked piece := by
  cases columns with
  | nil => exact List.forall_mem_nil _
  | cons first others =>
      have comma : Unmarked ", " := by decide
      exact List.forall_mem_cons.mpr ⟨by decide, List.forall_mem_map.mpr fun _ _ => comma⟩

theorem join_clausePieces {clause : List Term} (chain : IsChain clause) :
    String.join ((clausePieces clause).map (· ++ placeholder)) = printClause clause := by
  cases chain with
  | nil => rfl
  | @cons column terms linked =>
      have others : (clausePieces terms).map (· ++ placeholder) = terms.map Term.print := by
        unfold clausePieces
        rw [List.map_map]
        apply List.map_congr_left
        rintro ⟨link, name⟩ member
        rw [Function.comp_apply, Term.print_eq]
        cases link with
        | init => exact absurd rfl (linked _ member)
        | and => simp [Link.keyword, Link.separator, placeholder, String.append_assoc]
        | or => simp [Link.keyword, Link.separator, placeholder, String.append_assoc]
      have first : Link.init.keyword ++ " " ++ column ++ " REGEXP " ++ placeholder =
          " WHERE " ++ Term.print ⟨.init, column⟩ := by
        rw [Term.print_eq]
        simp [Link.keyword, Link.separator, placeholder, String.append_assoc]
      change String.join ((Link.init.keyword ++ " " ++ column ++ " REGEXP " ++ placeholder) ::
        (clausePieces terms).map (· ++ placeholder)) =
          " WHERE " ++ String.join (Term.print ⟨.init, column⟩ :: terms.map Term.print)
      rw [first, others, String.join_cons, String.join_cons, String.append_assoc]

theorem join_assignmentPieces {columns : List String} (nonempty : columns ≠ []) :
    String.join ((assignmentPieces columns).map (· ++ placeholder)) =
      " " ++ commaSeparated (columns.map fun column => column ++ " = " ++ placeholder) := by
  obtain ⟨first, others, rfl⟩ := List.exists_cons_of_ne_nil nonempty
  have later : (others.map fun column => ", " ++ column ++ " = ").map (· ++ placeholder) =
      (others.map fun column => column ++ " = " ++ placeholder).map fun item => ", " ++ item := by
    rw [List.map_map, List.map_map]
    apply List.map_congr_left
    intro column _
    simp only [Function.comp_apply, String.append_assoc]
  rw [List.map_cons, commaSeparated_cons, ← later]
  simp only [assignmentPieces, List.map_cons, String.join_cons, String.append_assoc]

theorem join_valuePieces {columns : List String} (nonempty : columns ≠ []) :
    String.join ((valuePieces columns).map (· ++ placeholder)) =
      commaSeparated (columns.map fun _ => placeholder) := by
  obtain ⟨first, others, rfl⟩ := List.exists_cons_of_ne_nil nonempty
  rw [List.map_cons, commaSeparated_cons]
  simp only [valuePieces, List.map_cons, String.join_cons, String.empty_append, List.map_map]
  rfl

/-! ## Single pieces -/

theorem length_assignmentPieces (columns : List String) :
    (assignmentPieces columns).length = columns.length := by
  cases columns with
  | nil => rfl
  | cons first others => rw [assignmentPieces, List.length_cons, List.length_map, List.length_cons]

theorem length_valuePieces (columns : List String) :
    (valuePieces columns).length = columns.length := by
  cases columns with
  | nil => rfl
  | cons first others => rw [valuePieces, List.length_cons, List.length_map, List.length_cons]

/-- An assignment has its column in front of its placeholder. -/
theorem getElem?_assignmentPieces {columns : List String} {index : Nat} {column : String}
    (here : columns[index]? = some column) :
    ∃ lead, (assignmentPieces columns)[index]? = some (lead ++ " " ++ column ++ " = ") := by
  cases columns with
  | nil => cases here
  | cons first others =>
      cases index with
      | zero =>
          obtain rfl : first = column := Option.some.inj here
          exact ⟨"", rfl⟩
      | succ index =>
          have later : others[index]? = some column := here
          refine ⟨",", ?_⟩
          change (others.map fun column => ", " ++ column ++ " = ")[index]? = _
          rw [List.getElem?_map, later]
          rfl

theorem shift_comma (count : Nat) :
    String.join (List.replicate count ", ?") ++ ", " =
      ", " ++ String.join (List.replicate count "?, ") := by
  induction count with
  | zero => rfl
  | succ count ih =>
      have around : ", ?" ++ ", " = ", " ++ "?, " := rfl
      rw [List.replicate_succ, List.replicate_succ, String.join_cons, String.join_cons,
        String.append_assoc, ih, ← String.append_assoc, around, String.append_assoc]

/-- The values in front of a placeholder are as many as its number says. -/
theorem before_valuePieces {columns : List String} {index : Nat} (inside : index < columns.length) :
    ∃ piece, (valuePieces columns)[index]? = some piece ∧
      String.join (((valuePieces columns).take index).map (· ++ placeholder)) ++ piece =
        String.join (List.replicate index "?, ") := by
  cases columns with
  | nil => cases inside
  | cons first others =>
      cases index with
      | zero => exact ⟨"", rfl, rfl⟩
      | succ index =>
          have later : index < others.length := Nat.lt_of_succ_lt_succ inside
          refine ⟨", ", ?_, ?_⟩
          · change (others.map fun _ => ", ")[index]? = _
            rw [List.getElem?_map, List.getElem?_eq_getElem later]
            rfl
          · have pieces : ((others.map fun _ => ", ").take index).map (· ++ placeholder) =
                List.replicate index ", ?" := by
              rw [List.map_const', List.take_replicate, Nat.min_eq_left (Nat.le_of_lt later),
                List.map_replicate]
              rfl
            change String.join (placeholder ::
              ((others.map fun _ => ", ").take index).map (· ++ placeholder)) ++ ", " = _
            rw [pieces, String.join_cons, String.append_assoc, shift_comma, List.replicate_succ,
              String.join_cons, ← String.append_assoc]
            rfl

namespace Statement

/-- The cut of a regular statement is one of its text. -/
theorem text_cut {statement : Statement} (regular : statement.Regular) :
    statement.cut.text = statement.print := by
  cases statement with
  | select columns table clause =>
      unfold cut Cut.text
      dsimp only
      rw [join_clausePieces regular.2]
      rfl
  | update table columns clause =>
      have keyword : " SET " = " SET" ++ " " := rfl
      change _ = "UPDATE " ++ table ++ " SET " ++
        commaSeparated (columns.map fun column => column ++ " = " ++ placeholder) ++
        printClause clause ++ ";"
      unfold cut Cut.text
      dsimp only
      rw [List.map_append, String.join_append, join_assignmentPieces regular.1,
        join_clausePieces regular.2, keyword]
      simp only [String.append_assoc]
  | delete table clause =>
      unfold cut Cut.text
      dsimp only
      rw [join_clausePieces regular]
      rfl
  | insert table columns =>
      unfold cut Cut.text
      dsimp only
      rw [join_valuePieces regular]
      rfl
  | create table columns =>
      change (Statement.create table columns).print ++ String.join [] ++ "" = _
      rw [String.join_nil, String.append_empty, String.append_empty]

/-- Where all names are words, no question mark stands in a piece. -/
theorem clean_cut {statement : Statement} (words : statement.AllNames IsWord) :
    statement.cut.Clean := by
  have semicolon : Unmarked ";" := by decide
  cases statement with
  | select columns table clause =>
      obtain ⟨columnWords, tableWord, clauseWords⟩ := words
      have head : Unmarked ("SELECT " ++ commaSeparated columns ++ " FROM " ++ table) := by
        simp only [unmarked_append_iff, unmarked_commaSeparated_of_isWord columnWords,
          unmarked_of_isWord tableWord]
        decide
      exact ⟨head, unmarked_clausePieces clauseWords, semicolon⟩
  | update table columns clause =>
      obtain ⟨tableWord, columnWords, clauseWords⟩ := words
      have head : Unmarked ("UPDATE " ++ table ++ " SET") := by
        simp only [unmarked_append_iff, unmarked_of_isWord tableWord]
        decide
      exact ⟨head, List.forall_mem_append.mpr ⟨unmarked_assignmentPieces columnWords,
        unmarked_clausePieces clauseWords⟩, semicolon⟩
  | delete table clause =>
      obtain ⟨tableWord, clauseWords⟩ := words
      have head : Unmarked ("DELETE FROM " ++ table) := by
        simp only [unmarked_append_iff, unmarked_of_isWord tableWord]
        decide
      exact ⟨head, unmarked_clausePieces clauseWords, semicolon⟩
  | insert table columns =>
      obtain ⟨tableWord, columnWords⟩ := words
      have head : Unmarked ("INSERT INTO " ++ table ++ " (" ++ commaSeparated columns ++
          ") VALUES (") := by
        simp only [unmarked_append_iff, unmarked_commaSeparated_of_isWord columnWords,
          unmarked_of_isWord tableWord]
        decide
      have tail : Unmarked ");" := by decide
      exact ⟨head, unmarked_valuePieces columns, tail⟩
  | create table columns =>
      obtain ⟨tableWord, columnWords⟩ := words
      have definitions : ∀ item ∈ columns.map ColumnDefinition.print, Unmarked item := by
        refine List.forall_mem_map.mpr fun column member => ?_
        simp only [ColumnDefinition.print, unmarked_append_iff,
          unmarked_of_isWord (columnWords column member)]
        cases column.required <;> decide
      have head : Unmarked ("CREATE TABLE IF NOT EXISTS " ++ table ++ " (" ++
          commaSeparated (columns.map ColumnDefinition.print) ++ ");") := by
        simp only [unmarked_append_iff, unmarked_commaSeparated definitions,
          unmarked_of_isWord tableWord]
        decide
      have tail : Unmarked "" := by decide
      exact ⟨head, List.forall_mem_nil _, tail⟩

end Statement

end Sql

end EntryStore
