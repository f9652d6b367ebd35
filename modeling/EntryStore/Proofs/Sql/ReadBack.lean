import EntryStore.Proofs.Identifier
import EntryStore.Sql.Reader

/-!
# Reading back what has been written

Each reader gives back what the printer of the same name wrote in front of any text with
which it cannot be confused.  `Statement.read?_print` puts the readers together: the text of
a statement whose names are words, and whose clause is a chain, is read as that statement.
-/

namespace EntryStore.Sql

/-- A name that the reader takes for one. -/
structure IsWord (name : String) : Prop where
  nonempty : name.toList ≠ []
  chars : ∀ c ∈ name.toList, isNameChar c = true

/-- A text with which no name goes on. -/
def EndsName (rest : List Char) : Prop := ∀ c ∈ rest.head?, isNameChar c = false

/-- Terms as a filter gives them: only the first one is not linked. -/
inductive IsChain : List Term → Prop where
  | nil : IsChain []
  | cons {column : String} {terms : List Term} :
      (∀ term ∈ terms, term.link ≠ .init) → IsChain (⟨.init, column⟩ :: terms)

/-! ## Names -/

theorem isNameChar_of_isRest {c : Char} (rest : Identifier.isRest c = true) :
    isNameChar c = true := by
  simp only [Identifier.isRest, isNameChar, Bool.or_eq_true] at rest ⊢
  exact Or.inl rest

/-- The reader takes all names that the checks admit. -/
theorem isWord_of_isName {name : String} (isName : Identifier.IsName name) : IsWord name := by
  cases isName with
  | plain part =>
      obtain ⟨first, head, _⟩ := part.starts
      obtain ⟨others, chars⟩ := List.head?_eq_some_iff.mp head
      constructor
      · rw [chars]
        exact List.cons_ne_nil _ _
      · intro c member
        exact isNameChar_of_isRest (part.chars c member)
  | @qualified schema table text schemaPart tablePart =>
      constructor
      · rw [text]
        simp
      · intro c member
        rw [text] at member
        rcases List.mem_append.mp member with inSchema | later
        · exact isNameChar_of_isRest (schemaPart.chars c inSchema)
        · rcases List.mem_cons.mp later with rfl | inTable
          · rfl
          · exact isNameChar_of_isRest (tablePart.chars c inTable)

@[simp] theorem expect_append (expected rest : List Char) :
    expect expected (expected ++ rest) = some rest := by
  induction expected with
  | nil => cases rest <;> rfl
  | cons c expected ih => simp [expect, ih]

theorem endsName_cons {c : Char} (ends : isNameChar c = false) (rest : List Char) :
    EndsName (c :: rest) := by
  intro d member
  cases member
  exact ends

theorem readName_append {name : String} {rest : List Char} (word : IsWord name)
    (ends : EndsName rest) : readName (name.toList ++ rest) = some (name, rest) := by
  have taken : (name.toList ++ rest).takeWhile isNameChar = name.toList := by
    rw [List.takeWhile_append_of_pos word.chars]
    cases rest with
    | nil => simp
    | cons c rest => simp [ends c rfl]
  have dropped : (name.toList ++ rest).dropWhile isNameChar = rest := by
    rw [List.dropWhile_append_of_pos word.chars]
    cases rest with
    | nil => simp
    | cons c rest => simp [ends c rfl]
  unfold readName
  rw [taken, dropped]
  cases chars : name.toList with
  | nil => exact absurd chars word.nonempty
  | cons c others => simp [← chars]

/-! ## Lists -/

section Lists

variable {α : Type} {item : List Char → Option (α × List Char)} (write : α → String)
variable (stops : List Char → Prop)

/-- Items with commas between them are read until a text follows that does not go on with a
comma, if each item is read in front of a comma and of that text. -/
theorem readSeparated_append {items : List α} {rest : List Char} {fuel : Nat}
    (reads : ∀ a ∈ items, ∀ rest, stops rest → item ((write a).toList ++ rest) = some (a, rest))
    (comma : ∀ rest, stops (", ".toList ++ rest)) (stopped : stops rest)
    (last : expect ", ".toList rest = none) (nonempty : items ≠ [])
    (enough : items.length ≤ fuel) :
    readSeparated item fuel ((commaSeparated (items.map write)).toList ++ rest) =
      some (items, rest) := by
  induction items generalizing fuel with
  | nil => exact absurd rfl nonempty
  | cons a items ih =>
      obtain ⟨fuel, rfl⟩ : ∃ less, fuel = less + 1 :=
        ⟨fuel - 1, by simp only [List.length_cons] at enough; omega⟩
      have first := reads a List.mem_cons_self
      cases items with
      | nil =>
          simp only [commaSeparated, List.map_cons, List.map_nil, String.intercalate_singleton,
            readSeparated, first rest stopped, Option.bind_eq_bind, Option.bind_some, last]
          rfl
      | cons b items =>
          have others := ih (fun c member => reads c (List.mem_cons_of_mem _ member))
            (List.cons_ne_nil _ _) (Nat.le_of_succ_le_succ enough)
          have text : (commaSeparated ((a :: b :: items).map write)).toList ++ rest =
              (write a).toList ++ (", ".toList ++
                ((commaSeparated ((b :: items).map write)).toList ++ rest)) := by
            simp only [commaSeparated, List.map_cons, String.intercalate_cons_cons,
              String.toList_append, List.append_assoc]
          rw [text]
          simp only [readSeparated, first _ (comma _), Option.bind_eq_bind, Option.bind_some,
            expect_append, others]
          rfl

/-- The commas alone take up as many characters as there are items. -/
theorem length_le_length_commaSeparated (names : List String) :
    names.length ≤ (commaSeparated names).toList.length + 1 := by
  induction names with
  | nil => exact Nat.zero_le _
  | cons name names ih =>
      cases names with
      | nil => exact Nat.succ_le_succ (Nat.zero_le _)
      | cons other names =>
          simp only [commaSeparated, String.intercalate_cons_cons, String.toList_append,
            List.length_append, List.length_cons] at ih ⊢
          have comma : ", ".toList.length = 2 := rfl
          omega

theorem readList_append {items : List α} {rest : List Char}
    (reads : ∀ a ∈ items, ∀ rest, stops rest → item ((write a).toList ++ rest) = some (a, rest))
    (comma : ∀ rest, stops (", ".toList ++ rest)) (stopped : stops rest)
    (last : expect ", ".toList rest = none) (nonempty : items ≠ []) :
    readList item ((commaSeparated (items.map write)).toList ++ rest) = some (items, rest) := by
  refine readSeparated_append write stops reads comma stopped last nonempty ?_
  have separated := length_le_length_commaSeparated (items.map write)
  rw [List.length_map] at separated
  rw [List.length_append]
  omega

end Lists

theorem endsName_comma (rest : List Char) : EndsName (", ".toList ++ rest) :=
  endsName_cons (by decide) _

theorem readList_names {names : List String} {rest : List Char}
    (words : ∀ name ∈ names, IsWord name) (ends : EndsName rest)
    (last : expect ", ".toList rest = none) (nonempty : names ≠ []) :
    readList readName ((commaSeparated names).toList ++ rest) = some (names, rest) := by
  have read := readList_append id EndsName
    (fun name member _ => readName_append (words name member)) endsName_comma ends last nonempty
  rwa [List.map_id] at read

theorem readPlaceholder_append (rest : List Char) :
    readPlaceholder (placeholder.toList ++ rest) = some ((), rest) := by
  rw [readPlaceholder, expect_append]
  rfl

theorem readAssignment_append {column : String} (word : IsWord column) (rest : List Char) :
    readAssignment ((column ++ " = " ++ placeholder).toList ++ rest) = some (column, rest) := by
  have text : (column ++ " = " ++ placeholder).toList ++ rest =
      column.toList ++ (" = ?".toList ++ rest) := by
    simp [placeholder]
  have ends : EndsName (" = ?".toList ++ rest) := endsName_cons (by decide) _
  simp only [text, readAssignment, readName_append word ends, Option.bind_eq_bind,
    Option.bind_some, expect_append]
  rfl

theorem readCondition_append {column : String} (word : IsWord column) (rest : List Char) :
    readCondition (column.toList ++ (" REGEXP ?".toList ++ rest)) = some (column, rest) := by
  have ends : EndsName (" REGEXP ?".toList ++ rest) := endsName_cons (by decide) _
  simp only [readCondition, readName_append word ends, Option.bind_eq_bind, Option.bind_some,
    expect_append]
  rfl

/-- Behind a definition no letter of a further constraint may stand. -/
theorem readDefinition_append {column : ColumnDefinition} (word : IsWord column.name)
    {rest : List Char} (last : expect " NOT NULL".toList rest = none) :
    readDefinition (column.print.toList ++ rest) = some (column, rest) := by
  have ends : ∀ more, EndsName (" TEXT".toList ++ more) := endsName_cons (by decide)
  obtain ⟨name, required⟩ := column
  cases required with
  | false =>
      have text : (ColumnDefinition.print ⟨name, false⟩).toList ++ rest =
          name.toList ++ (" TEXT".toList ++ rest) := by
        simp [ColumnDefinition.print]
      simp only [text, readDefinition, readName_append word (ends _), Option.bind_eq_bind,
        Option.bind_some, expect_append, last]
      rfl
  | true =>
      have text : (ColumnDefinition.print ⟨name, true⟩).toList ++ rest =
          name.toList ++ (" TEXT".toList ++ (" NOT NULL".toList ++ rest)) := by
        simp [ColumnDefinition.print]
      simp only [text, readDefinition, readName_append word (ends _), Option.bind_eq_bind,
        Option.bind_some, expect_append]
      rfl

/-! ## Clauses -/

theorem Term.toList_print (term : Term) :
    term.print.toList =
      term.link.separator.toList ++ (term.column.toList ++ " REGEXP ?".toList) := by
  simp [Term.print, matchOperator, placeholder]

theorem readLink_append {link : Link} (linked : link ≠ .init) (rest : List Char) :
    readLink (link.separator.toList ++ rest) = some (link, rest) := by
  cases link with
  | init => exact absurd rfl linked
  | and =>
      unfold readLink
      rw [expect_append]
  | or =>
      have other : expect Link.and.separator.toList (Link.or.separator.toList ++ rest) = none :=
        rfl
      unfold readLink
      rw [other, expect_append]

theorem length_le_length_terms (terms : List Term) :
    terms.length ≤ (String.join (terms.map Term.print)).toList.length := by
  induction terms with
  | nil => exact Nat.zero_le _
  | cons term terms ih =>
      have written : 1 ≤ term.print.toList.length := by
        rw [Term.toList_print, List.length_append, List.length_append]
        have operator : " REGEXP ?".toList.length = 9 := rfl
        omega
      rw [List.map_cons, String.join_cons, String.toList_append, List.length_append,
        List.length_cons]
      omega

theorem readTerms_append {terms : List Term} {rest : List Char} {fuel : Nat}
    (linked : ∀ term ∈ terms, term.link ≠ .init) (words : ∀ term ∈ terms, IsWord term.column)
    (last : readLink rest = none) (enough : terms.length < fuel) :
    readTerms fuel ((String.join (terms.map Term.print)).toList ++ rest) =
      some (terms, rest) := by
  induction terms generalizing fuel with
  | nil =>
      obtain ⟨fuel, rfl⟩ : ∃ less, fuel = less + 1 := ⟨fuel - 1, by omega⟩
      simp [readTerms, last]
  | cons term terms ih =>
      obtain ⟨fuel, rfl⟩ : ∃ less, fuel = less + 1 := ⟨fuel - 1, by omega⟩
      have others := ih (fun other member => linked other (List.mem_cons_of_mem _ member))
        (fun other member => words other (List.mem_cons_of_mem _ member))
        (Nat.lt_of_succ_lt_succ enough)
      have text : (String.join ((term :: terms).map Term.print)).toList ++ rest =
          term.link.separator.toList ++ (term.column.toList ++ (" REGEXP ?".toList ++
            ((String.join (terms.map Term.print)).toList ++ rest))) := by
        rw [List.map_cons, String.join_cons, String.toList_append, Term.toList_print]
        simp only [List.append_assoc]
      simp only [text, readTerms, readLink_append (linked term List.mem_cons_self),
        readCondition_append (words term List.mem_cons_self), Option.bind_eq_bind,
        Option.bind_some, others]
      rfl

/-- The end of a statement. -/
def terminator : List Char := [';']

theorem readClause_append {clause : List Term} (chain : IsChain clause)
    (words : ∀ term ∈ clause, IsWord term.column) :
    readClause ((printClause clause).toList ++ terminator) = some (clause, terminator) := by
  cases chain with
  | nil => rfl
  | @cons column terms linked =>
      have text : (printClause (⟨.init, column⟩ :: terms)).toList ++ terminator =
          " WHERE ".toList ++ (column.toList ++ (" REGEXP ?".toList ++
            ((String.join (terms.map Term.print)).toList ++ terminator))) := by
        simp only [printClause, List.map_cons, String.join_cons, String.toList_append,
          Term.toList_print, Link.separator, List.append_assoc]
        rfl
      have enough : terms.length <
          ((String.join (terms.map Term.print)).toList ++ terminator).length + 1 := by
        rw [List.length_append]
        exact Nat.lt_succ_of_le
          (Nat.le_trans (length_le_length_terms terms) (Nat.le_add_right _ _))
      have last : readLink terminator = none := rfl
      have others := readTerms_append linked
        (fun term member => words term (List.mem_cons_of_mem _ member)) last enough
      simp only [text, readClause, expect_append,
        readCondition_append (words _ List.mem_cons_self), Option.bind_eq_bind,
        Option.bind_some, others]
      rfl

/-! ## Statements -/

namespace Statement

/-- A property of all names in a statement. -/
def AllNames (property : String → Prop) : Statement → Prop
  | .select columns table clause =>
      (∀ column ∈ columns, property column) ∧ property table ∧
        ∀ term ∈ clause, property term.column
  | .update table columns clause =>
      property table ∧ (∀ column ∈ columns, property column) ∧
        ∀ term ∈ clause, property term.column
  | .delete table clause => property table ∧ ∀ term ∈ clause, property term.column
  | .insert table columns => property table ∧ ∀ column ∈ columns, property column
  | .create table columns => property table ∧ ∀ column ∈ columns, property column.name

/-- A statement that has columns where there have to be some, and whose clause is a chain. -/
def Regular : Statement → Prop
  | .select columns _ clause => columns ≠ [] ∧ IsChain clause
  | .update _ columns clause => columns ≠ [] ∧ IsChain clause
  | .delete _ clause => IsChain clause
  | .insert _ columns => columns ≠ []
  | .create _ columns => columns ≠ []

theorem AllNames.imp {property weaker : String → Prop}
    (implies : ∀ name, property name → weaker name) {statement : Statement}
    (names : statement.AllNames property) : statement.AllNames weaker := by
  cases statement with
  | select columns table clause =>
      obtain ⟨columnNames, tableName, clauseNames⟩ := names
      exact ⟨fun column member => implies _ (columnNames column member), implies _ tableName,
        fun term member => implies _ (clauseNames term member)⟩
  | update table columns clause =>
      obtain ⟨tableName, columnNames, clauseNames⟩ := names
      exact ⟨implies _ tableName, fun column member => implies _ (columnNames column member),
        fun term member => implies _ (clauseNames term member)⟩
  | delete table clause =>
      exact ⟨implies _ names.1, fun term member => implies _ (names.2 term member)⟩
  | insert table columns =>
      exact ⟨implies _ names.1, fun column member => implies _ (names.2 column member)⟩
  | create table columns =>
      exact ⟨implies _ names.1, fun column member => implies _ (names.2 column member)⟩

end Statement

theorem endsName_printClause (clause : List Term) :
    EndsName ((printClause clause).toList ++ terminator) := by
  cases clause with
  | nil => exact endsName_cons (by decide) _
  | cons term terms =>
      rw [printClause]
      · rw [String.toList_append, List.append_assoc]
        exact endsName_cons (by decide) _
      · exact List.cons_ne_nil _ _

theorem expect_comma_printClause (clause : List Term) :
    expect ", ".toList ((printClause clause).toList ++ terminator) = none := by
  cases clause with
  | nil => rfl
  | cons term terms =>
      rw [printClause]
      · rw [String.toList_append, List.append_assoc]
        rfl
      · exact List.cons_ne_nil _ _

theorem readSelect_append {columns : List String} {table : String} {clause : List Term}
    (nonempty : columns ≠ []) (words : ∀ column ∈ columns, IsWord column)
    (tableWord : IsWord table) (chain : IsChain clause)
    (clauseWords : ∀ term ∈ clause, IsWord term.column) :
    readSelect ((commaSeparated columns).toList ++ (" FROM ".toList ++ (table.toList ++
        ((printClause clause).toList ++ terminator)))) =
      some (.select columns table clause, terminator) := by
  have ends : ∀ rest, EndsName (" FROM ".toList ++ rest) := endsName_cons (by decide)
  simp only [readSelect, readList_names words (ends _) rfl nonempty, Option.bind_eq_bind,
    Option.bind_some, expect_append, readName_append tableWord (endsName_printClause clause),
    readClause_append chain clauseWords]
  rfl

theorem readUpdate_append {table : String} {columns : List String} {clause : List Term}
    (tableWord : IsWord table) (nonempty : columns ≠ [])
    (words : ∀ column ∈ columns, IsWord column) (chain : IsChain clause)
    (clauseWords : ∀ term ∈ clause, IsWord term.column) :
    readUpdate (table.toList ++ (" SET ".toList ++
        ((commaSeparated (columns.map fun column => column ++ " = " ++ placeholder)).toList ++
          ((printClause clause).toList ++ terminator)))) =
      some (.update table columns clause, terminator) := by
  have ends : ∀ rest, EndsName (" SET ".toList ++ rest) := endsName_cons (by decide)
  have assignments := readList_append (fun column => column ++ " = " ++ placeholder)
    (fun _ => True) (fun column member rest _ => readAssignment_append (words column member) rest)
    (fun _ => trivial) trivial (expect_comma_printClause clause) nonempty
  simp only [readUpdate, readName_append tableWord (ends _), Option.bind_eq_bind,
    Option.bind_some, expect_append, assignments, readClause_append chain clauseWords]
  rfl

theorem readDelete_append {table : String} {clause : List Term} (tableWord : IsWord table)
    (chain : IsChain clause) (clauseWords : ∀ term ∈ clause, IsWord term.column) :
    readDelete (table.toList ++ ((printClause clause).toList ++ terminator)) =
      some (.delete table clause, terminator) := by
  simp only [readDelete, readName_append tableWord (endsName_printClause clause),
    Option.bind_eq_bind, Option.bind_some, readClause_append chain clauseWords]
  rfl

/-- Placeholders are read as many as there are. -/
theorem readList_placeholders {count : Nat} {rest : List Char}
    (last : expect ", ".toList rest = none) :
    readList readPlaceholder
        ((commaSeparated (List.replicate (count + 1) placeholder)).toList ++ rest) =
      some (List.replicate (count + 1) (), rest) := by
  have nonempty : List.replicate (count + 1) () ≠ [] := List.cons_ne_nil _ _
  have read := readList_append (fun _ : Unit => placeholder) (fun _ => True)
    (fun _ _ rest _ => readPlaceholder_append rest) (fun _ => trivial) trivial last nonempty
  rwa [List.map_replicate] at read

theorem readInsert_append {table : String} {columns : List String} (tableWord : IsWord table)
    (nonempty : columns ≠ []) (words : ∀ column ∈ columns, IsWord column) :
    readInsert (table.toList ++ (" (".toList ++ ((commaSeparated columns).toList ++
        (") VALUES (".toList ++
          ((commaSeparated (columns.map fun _ => placeholder)).toList ++
            (")".toList ++ terminator)))))) =
      some (.insert table columns, terminator) := by
  have ends : ∀ rest, EndsName (" (".toList ++ rest) := endsName_cons (by decide)
  have valuesEnd : ∀ rest, EndsName (") VALUES (".toList ++ rest) := endsName_cons (by decide)
  obtain ⟨count, length⟩ : ∃ count, columns.length = count + 1 :=
    ⟨columns.length - 1, by have := List.length_pos_iff.mpr nonempty; omega⟩
  have values : readList readPlaceholder
      ((commaSeparated (columns.map fun _ => placeholder)).toList ++
        (")".toList ++ terminator)) =
      some (List.replicate (count + 1) (), ")".toList ++ terminator) := by
    rw [List.map_const', length]
    exact readList_placeholders rfl
  simp only [readInsert, readName_append tableWord (ends _), Option.bind_eq_bind,
    Option.bind_some, expect_append, readList_names words (valuesEnd _) rfl nonempty, values,
    List.length_replicate, length, if_true]
  rfl

theorem readCreate_append {table : String} {columns : List ColumnDefinition}
    (tableWord : IsWord table) (nonempty : columns ≠ [])
    (words : ∀ column ∈ columns, IsWord column.name) :
    readCreate (table.toList ++ (" (".toList ++
        ((commaSeparated (columns.map ColumnDefinition.print)).toList ++
          (")".toList ++ terminator)))) =
      some (.create table columns, terminator) := by
  have ends : ∀ rest, EndsName (" (".toList ++ rest) := endsName_cons (by decide)
  have stopped : expect " NOT NULL".toList (")".toList ++ terminator) = none := rfl
  have definitions := readList_append ColumnDefinition.print
    (fun rest => expect " NOT NULL".toList rest = none)
    (fun column member rest last => readDefinition_append (words column member) last)
    (fun _ => rfl) stopped rfl nonempty
  simp only [readCreate, readName_append tableWord (ends _), Option.bind_eq_bind,
    Option.bind_some, expect_append, definitions]
  rfl

/-- A text is read by the form whose beginning it has, unless it has that of an earlier one. -/
theorem Statement.read?_of_form {sql beginning : String} {body : List Char}
    {form : List Char → Option (Statement × List Char)} {statement : Statement}
    (earlier later : List (String × (List Char → Option (Statement × List Char))))
    (forms : statementForms = earlier ++ (beginning, form) :: later)
    (others : ∀ other ∈ earlier, expect other.1.toList sql.toList = none)
    (text : sql.toList = beginning.toList ++ body)
    (read : form body = some (statement, terminator)) :
    Statement.read? sql = some statement := by
  unfold Statement.read?
  rw [forms, List.findSome?_append, List.findSome?_eq_none_iff.mpr, Option.none_or,
    List.findSome?_cons]
  · simp only [text, expect_append, Option.bind_eq_bind, Option.bind_some, read]
    rfl
  · intro other member
    simp only [others other member, Option.bind_eq_bind, Option.bind_none]

theorem toList_print_select (columns : List String) (table : String) (clause : List Term) :
    (Statement.select columns table clause).print.toList =
      "SELECT ".toList ++ ((commaSeparated columns).toList ++ (" FROM ".toList ++
        (table.toList ++ ((printClause clause).toList ++ terminator)))) := by
  change ("SELECT " ++ commaSeparated columns ++ " FROM " ++ table ++ printClause clause ++
    ";").toList = _
  simp only [String.toList_append, List.append_assoc]
  rfl

theorem toList_print_update (table : String) (columns : List String) (clause : List Term) :
    (Statement.update table columns clause).print.toList =
      "UPDATE ".toList ++ (table.toList ++ (" SET ".toList ++
        ((commaSeparated (columns.map fun column => column ++ " = " ++ placeholder)).toList ++
          ((printClause clause).toList ++ terminator)))) := by
  change ("UPDATE " ++ table ++ " SET " ++
    commaSeparated (columns.map fun column => column ++ " = " ++ placeholder) ++
    printClause clause ++ ";").toList = _
  simp only [String.toList_append, List.append_assoc]
  rfl

theorem toList_print_delete (table : String) (clause : List Term) :
    (Statement.delete table clause).print.toList =
      "DELETE FROM ".toList ++ (table.toList ++
        ((printClause clause).toList ++ terminator)) := by
  change ("DELETE FROM " ++ table ++ printClause clause ++ ";").toList = _
  simp only [String.toList_append, List.append_assoc]
  rfl

theorem toList_print_insert (table : String) (columns : List String) :
    (Statement.insert table columns).print.toList =
      "INSERT INTO ".toList ++ (table.toList ++ (" (".toList ++
        ((commaSeparated columns).toList ++ (") VALUES (".toList ++
          ((commaSeparated (columns.map fun _ => placeholder)).toList ++
            (")".toList ++ terminator)))))) := by
  change ("INSERT INTO " ++ table ++ " (" ++ commaSeparated columns ++ ") VALUES (" ++
    commaSeparated (columns.map fun _ => placeholder) ++ ");").toList = _
  simp only [String.toList_append, List.append_assoc]
  rfl

theorem toList_print_create (table : String) (columns : List ColumnDefinition) :
    (Statement.create table columns).print.toList =
      "CREATE TABLE IF NOT EXISTS ".toList ++ (table.toList ++ (" (".toList ++
        ((commaSeparated (columns.map ColumnDefinition.print)).toList ++
          (")".toList ++ terminator)))) := by
  change ("CREATE TABLE IF NOT EXISTS " ++ table ++ " (" ++
    commaSeparated (columns.map ColumnDefinition.print) ++ ");").toList = _
  simp only [String.toList_append, List.append_assoc]
  rfl

/-- The text of a regular statement whose names are words is read as that statement. -/
theorem Statement.read?_print {statement : Statement} (words : statement.AllNames IsWord)
    (regular : statement.Regular) : Statement.read? statement.print = some statement := by
  cases statement with
  | select columns table clause =>
      obtain ⟨columnWords, tableWord, clauseWords⟩ := words
      obtain ⟨nonempty, chain⟩ := regular
      exact read?_of_form [] _ rfl (by simp) (toList_print_select columns table clause)
        (readSelect_append nonempty columnWords tableWord chain clauseWords)
  | update table columns clause =>
      obtain ⟨tableWord, columnWords, clauseWords⟩ := words
      obtain ⟨nonempty, chain⟩ := regular
      refine read?_of_form (statementForms.take 1) _ rfl ?_
        (toList_print_update table columns clause)
        (readUpdate_append tableWord nonempty columnWords chain clauseWords)
      rw [toList_print_update]
      simp [statementForms, expect]
  | delete table clause =>
      obtain ⟨tableWord, clauseWords⟩ := words
      refine read?_of_form (statementForms.take 2) _ rfl ?_ (toList_print_delete table clause)
        (readDelete_append tableWord regular clauseWords)
      rw [toList_print_delete]
      simp [statementForms, expect]
  | insert table columns =>
      obtain ⟨tableWord, columnWords⟩ := words
      refine read?_of_form (statementForms.take 3) _ rfl ?_ (toList_print_insert table columns)
        (readInsert_append tableWord regular columnWords)
      rw [toList_print_insert]
      simp [statementForms, expect]
  | create table columns =>
      obtain ⟨tableWord, columnWords⟩ := words
      refine read?_of_form (statementForms.take 4) _ rfl ?_ (toList_print_create table columns)
        (readCreate_append tableWord regular columnWords)
      rw [toList_print_create]
      simp [statementForms, expect]

end EntryStore.Sql
