import EntryStore.Proofs.Sql.ReadBack
import Mathlib.Data.List.Basic

/-!
# The grammar of statements

Statements on entries are the sentences of this grammar, whose terminals are written in
quotes:

    Select      := "SELECT " Columns " FROM " Table (" WHERE " Clause)? ";"
    Update      := "UPDATE " Table " SET " Assignments (" WHERE " Clause)? ";"
    Delete      := "DELETE FROM " Table (" WHERE " Clause)? ";"
    Insert      := "INSERT INTO " Table " (" Columns ") VALUES (" "?" (", ?")* ");"
    Columns     := Column (", " Column)*
    Assignments := Column " = ?" (", " Column " = ?")*
    Clause      := Predicate ((" AND " | " OR ") Predicate)*
    Predicate   := Column " REGEXP ?"

A `Sentence` is a derivation.  The grammar does not relate the number of placeholders of an
insertion to that of its columns.  `Sentence.text_injective` says that derivations whose names
are words are told apart by their texts.
-/

namespace EntryStore.Sql

/-- What stands between two predicates. -/
inductive Junction where
  | and
  | or
  deriving DecidableEq, Repr

namespace Junction

def text : Junction → String
  | .and => " AND "
  | .or => " OR "

/-- The link that a junction stands for. -/
def link : Junction → Link
  | .and => .and
  | .or => .or

/-- The junction of a link. -/
def ofLink : Link → Junction
  | .or => .or
  | .init | .and => .and

end Junction

/-- A list of columns or assignments: the first one, and those after commas. -/
structure ColumnList where
  first : String
  others : List String
  deriving DecidableEq, Repr

namespace ColumnList

/-- The text of columns. -/
def text (columns : ColumnList) : String :=
  columns.first ++ String.join (columns.others.map fun column => ", " ++ column)

/-- The text of assignments. -/
def assignmentText (columns : ColumnList) : String :=
  columns.first ++ " = ?" ++
    String.join (columns.others.map fun column => ", " ++ (column ++ " = ?"))

/-- The names in their order. -/
def names (columns : ColumnList) : List String := columns.first :: columns.others

end ColumnList

/-- A clause: the column of the first predicate, and those after junctions. -/
structure Clause where
  first : String
  others : List (Junction × String)
  deriving DecidableEq, Repr

namespace Clause

def text (clause : Clause) : String :=
  clause.first ++ " REGEXP ?" ++
    String.join (clause.others.map fun (junction, column) =>
      junction.text ++ (column ++ " REGEXP ?"))

/-- The terms of a clause. -/
def terms (clause : Clause) : List Term :=
  ⟨.init, clause.first⟩ :: clause.others.map fun (junction, column) => ⟨junction.link, column⟩

/-- The text of an optional clause. -/
def textOf : Option Clause → String
  | none => ""
  | some clause => " WHERE " ++ clause.text

/-- The terms of an optional clause. -/
def termsOf : Option Clause → List Term
  | none => []
  | some clause => clause.terms

end Clause

/-- A derivation in the grammar. -/
inductive Sentence where
  | select (columns : ColumnList) (table : String) (clause : Option Clause)
  | update (table : String) (columns : ColumnList) (clause : Option Clause)
  | delete (table : String) (clause : Option Clause)
  /-- `further` counts the placeholders after the first -/
  | insert (table : String) (columns : ColumnList) (further : Nat)
  deriving DecidableEq, Repr

namespace Sentence

/-- The sentence that a derivation derives. -/
def text : Sentence → String
  | .select columns table clause =>
      "SELECT " ++ columns.text ++ " FROM " ++ table ++ Clause.textOf clause ++ ";"
  | .update table columns clause =>
      "UPDATE " ++ table ++ " SET " ++ columns.assignmentText ++ Clause.textOf clause ++ ";"
  | .delete table clause => "DELETE FROM " ++ table ++ Clause.textOf clause ++ ";"
  | .insert table columns further =>
      "INSERT INTO " ++ table ++ " (" ++ columns.text ++ ") VALUES (" ++
        ("?" ++ String.join (List.replicate further ", ?")) ++ ");"

/-- What a derivation reads: the kind of statement, its table, its columns and its clause. -/
def statement : Sentence → Statement
  | .select columns table clause => .select columns.names table (Clause.termsOf clause)
  | .update table columns clause => .update table columns.names (Clause.termsOf clause)
  | .delete table clause => .delete table (Clause.termsOf clause)
  | .insert table columns _ => .insert table columns.names

/-- A property of all names in a derivation. -/
def AllNames (property : String → Prop) (sentence : Sentence) : Prop :=
  sentence.statement.AllNames property

/-- An insertion has as many placeholders as columns. -/
def Balanced : Sentence → Prop
  | .insert _ columns further => further = columns.others.length
  | _ => True

/-- The first character of a sentence. -/
def initial : Sentence → Char
  | .select _ _ _ => 'S'
  | .update _ _ _ => 'U'
  | .delete _ _ => 'D'
  | .insert _ _ _ => 'I'

end Sentence

/-! ## Sentences are the texts of statements -/

theorem commaSeparated_cons (first : String) (others : List String) :
    commaSeparated (first :: others) =
      first ++ String.join (others.map fun item => ", " ++ item) := by
  induction others generalizing first with
  | nil =>
      rw [commaSeparated, String.intercalate_singleton, List.map_nil, String.join_nil,
        String.append_empty]
  | cons second others ih =>
      have separated : commaSeparated (first :: second :: others) =
          first ++ ", " ++ commaSeparated (second :: others) := by
        simp only [commaSeparated, String.intercalate_cons_cons]
      rw [separated, ih, List.map_cons, String.join_cons, String.append_assoc,
        String.append_assoc]

theorem ColumnList.text_eq (columns : ColumnList) :
    columns.text = commaSeparated columns.names := (commaSeparated_cons _ _).symm

theorem ColumnList.assignmentText_eq (columns : ColumnList) :
    columns.assignmentText =
      commaSeparated (columns.names.map fun column => column ++ " = " ++ placeholder) := by
  have assigned : (fun column : String => column ++ " = " ++ placeholder) =
      fun column => column ++ " = ?" := by
    funext column
    rw [String.append_assoc]
    rfl
  rw [assigned, ColumnList.names, List.map_cons, commaSeparated_cons, List.map_map]
  rfl

theorem Term.print_eq (link : Link) (column : String) :
    Term.print ⟨link, column⟩ = link.separator ++ (column ++ " REGEXP ?") := by
  change link.separator ++ column ++ " " ++ "REGEXP" ++ " " ++ "?" = _
  simp only [String.append_assoc]
  rfl

theorem Clause.textOf_eq (clause? : Option Clause) :
    Clause.textOf clause? = printClause (Clause.termsOf clause?) := by
  cases clause? with
  | none => rfl
  | some clause =>
      have others : (clause.others.map fun (junction, column) =>
          (⟨junction.link, column⟩ : Term)).map Term.print =
          clause.others.map fun (junction, column) =>
            junction.text ++ (column ++ " REGEXP ?") := by
        rw [List.map_map]
        apply List.map_congr_left
        rintro ⟨junction, column⟩ _
        rw [Function.comp_apply, Term.print_eq]
        cases junction <;> rfl
      change " WHERE " ++ clause.text =
        " WHERE " ++ String.join (clause.terms.map Term.print)
      rw [Clause.terms, List.map_cons, String.join_cons, others, Term.print_eq]
      change _ = " WHERE " ++ ("" ++ (clause.first ++ " REGEXP ?") ++ _)
      rw [String.empty_append]
      rfl

/-- A balanced sentence is the text of the statement that it reads. -/
theorem Sentence.text_eq_print {sentence : Sentence} (balanced : sentence.Balanced) :
    sentence.text = sentence.statement.print := by
  cases sentence with
  | select columns table clause =>
      change "SELECT " ++ columns.text ++ " FROM " ++ table ++ Clause.textOf clause ++ ";" = _
      rw [columns.text_eq, Clause.textOf_eq]
      rfl
  | update table columns clause =>
      change "UPDATE " ++ table ++ " SET " ++ columns.assignmentText ++ Clause.textOf clause ++
        ";" = _
      rw [columns.assignmentText_eq, Clause.textOf_eq]
      rfl
  | delete table clause =>
      change "DELETE FROM " ++ table ++ Clause.textOf clause ++ ";" = _
      rw [Clause.textOf_eq]
      rfl
  | insert table columns further =>
      have values : "?" ++ String.join (List.replicate further ", ?") =
          commaSeparated (columns.names.map fun _ => placeholder) := by
        rw [ColumnList.names, List.map_cons, commaSeparated_cons, List.map_map, balanced,
          ← List.map_const']
        rfl
      change "INSERT INTO " ++ table ++ " (" ++ columns.text ++ ") VALUES (" ++
        ("?" ++ String.join (List.replicate further ", ?")) ++ ");" = _
      rw [columns.text_eq, values]
      rfl

/-! ## Sentences with one derivation -/

theorem Junction.link_injective : Function.Injective Junction.link := by
  intro left right same
  cases left <;> cases right <;> first | rfl | cases same

theorem Junction.link_ne_init (junction : Junction) : junction.link ≠ .init := by
  cases junction <;> exact Link.noConfusion

theorem Junction.link_ofLink {link : Link} (linked : link ≠ .init) :
    (Junction.ofLink link).link = link := by
  cases link with
  | init => exact absurd rfl linked
  | and => rfl
  | or => rfl

theorem ColumnList.names_injective : Function.Injective ColumnList.names := by
  rintro ⟨first, others⟩ ⟨first', others'⟩ same
  cases same
  rfl

theorem Clause.terms_injective : Function.Injective Clause.terms := by
  have injective : Function.Injective fun predicate : Junction × String =>
      (⟨predicate.1.link, predicate.2⟩ : Term) := by
    rintro ⟨junction, column⟩ ⟨junction', column'⟩ same
    obtain ⟨links, columns⟩ := Term.mk.inj same
    exact Prod.ext (Junction.link_injective links) columns
  rintro ⟨first, others⟩ ⟨first', others'⟩ same
  obtain ⟨head, tail⟩ := List.cons.inj same
  obtain rfl : first = first' := (Term.mk.inj head).2
  obtain rfl : others = others' := List.map_injective_iff.mpr injective tail
  rfl

theorem Clause.termsOf_injective : Function.Injective Clause.termsOf := by
  intro left right same
  cases left with
  | none =>
      cases right with
      | none => rfl
      | some clause => cases same
  | some clause =>
      cases right with
      | none => cases same
      | some clause' => rw [Clause.terms_injective same]

theorem isChain_termsOf (clause? : Option Clause) : IsChain (Clause.termsOf clause?) := by
  cases clause? with
  | none => exact .nil
  | some clause =>
      refine .cons ?_
      intro term member
      obtain ⟨⟨junction, column⟩, _, rfl⟩ := List.mem_map.mp member
      exact junction.link_ne_init

namespace Sentence

theorem regular_statement (sentence : Sentence) : sentence.statement.Regular := by
  cases sentence with
  | select columns table clause => exact ⟨List.cons_ne_nil _ _, isChain_termsOf clause⟩
  | update table columns clause => exact ⟨List.cons_ne_nil _ _, isChain_termsOf clause⟩
  | delete table clause => exact isChain_termsOf clause
  | insert table columns further => exact List.cons_ne_nil _ _

/-- The text of a balanced sentence is read as its statement. -/
theorem read?_text {sentence : Sentence} (words : sentence.AllNames IsWord)
    (balanced : sentence.Balanced) : Statement.read? sentence.text = some sentence.statement := by
  rw [text_eq_print balanced]
  exact Statement.read?_print words sentence.regular_statement

/-- Balanced sentences are told apart by their statements. -/
theorem eq_of_statement {left right : Sentence} (leftBalanced : left.Balanced)
    (rightBalanced : right.Balanced) (same : left.statement = right.statement) :
    left = right := by
  cases left with
  | select columns table clause =>
      cases right <;> simp only [statement, reduceCtorEq, Statement.select.injEq] at same
      obtain ⟨names, rfl, terms⟩ := same
      rw [ColumnList.names_injective names, Clause.termsOf_injective terms]
  | update table columns clause =>
      cases right <;> simp only [statement, reduceCtorEq, Statement.update.injEq] at same
      obtain ⟨rfl, names, terms⟩ := same
      rw [ColumnList.names_injective names, Clause.termsOf_injective terms]
  | delete table clause =>
      cases right <;> simp only [statement, reduceCtorEq, Statement.delete.injEq] at same
      obtain ⟨rfl, terms⟩ := same
      rw [Clause.termsOf_injective terms]
  | insert table columns further =>
      cases right <;> simp only [statement, reduceCtorEq, Statement.insert.injEq] at same
      obtain ⟨rfl, names⟩ := same
      obtain rfl := ColumnList.names_injective names
      rw [leftBalanced, rightBalanced]

/-- Placeholders are told apart by their number. -/
theorem join_placeholders_injective {left right : Nat}
    (same : String.join (List.replicate left ", ?") = String.join (List.replicate right ", ?")) :
    left = right := by
  have length : ∀ count, (String.join (List.replicate count ", ?")).length = count * 3 := by
    intro count
    induction count with
    | zero => rfl
    | succ count ih =>
        rw [List.replicate_succ, String.join_cons, String.length_append, ih, Nat.succ_mul,
          Nat.add_comm]
        rfl
  have lengths := congrArg String.length same
  rw [length, length] at lengths
  omega

/-- The names of an insertion are read off its text, and what is left are the placeholders. -/
theorem insert_text_injective {table table' : String} {columns columns' : ColumnList}
    {further further' : Nat} (words : (insert table columns further).AllNames IsWord)
    (words' : (insert table' columns' further').AllNames IsWord)
    (same : (insert table columns further).text = (insert table' columns' further').text) :
    insert table columns further = insert table' columns' further' := by
  have text : ∀ (table : String) (columns : ColumnList) (further : Nat),
      (insert table columns further).text.toList =
        "INSERT INTO ".toList ++ (table.toList ++ (" (".toList ++
          ((commaSeparated columns.names).toList ++ (") VALUES (".toList ++ ("?".toList ++
            ((String.join (List.replicate further ", ?")).toList ++ ");".toList)))))) := by
    intro table columns further
    change ("INSERT INTO " ++ table ++ " (" ++ columns.text ++ ") VALUES (" ++
        ("?" ++ String.join (List.replicate further ", ?")) ++ ");").toList = _
    rw [columns.text_eq]
    simp only [String.toList_append, List.append_assoc]
  have ends : ∀ rest, EndsName (" (".toList ++ rest) := endsName_cons (by decide)
  have valuesEnd : ∀ rest, EndsName (") VALUES (".toList ++ rest) := endsName_cons (by decide)
  have chars := congrArg String.toList same
  rw [text, text, List.append_cancel_left_eq] at chars
  have tables := congrArg readName chars
  rw [readName_append words.1 (ends _), readName_append words'.1 (ends _), Option.some.injEq,
    Prod.mk.injEq, List.append_cancel_left_eq] at tables
  obtain ⟨rfl, afterTable⟩ := tables
  -- The placeholders need not be as many as the names, so the statement reader does not apply.
  have lists := congrArg (readList readName) afterTable
  rw [readList_names words.2 (valuesEnd _) rfl (List.cons_ne_nil _ _),
    readList_names words'.2 (valuesEnd _) rfl (List.cons_ne_nil _ _), Option.some.injEq,
    Prod.mk.injEq, List.append_cancel_left_eq, List.append_cancel_left_eq,
    List.append_cancel_right_eq] at lists
  obtain ⟨names, placeholders⟩ := lists
  rw [ColumnList.names_injective names,
    join_placeholders_injective (String.toList_inj.mp placeholders)]

theorem head?_text (sentence : Sentence) : sentence.text.toList.head? = some sentence.initial := by
  cases sentence with
  | select columns table clause =>
      change ("SELECT " ++ columns.text ++ " FROM " ++ table ++ Clause.textOf clause ++
        ";").toList.head? = _
      simp only [String.toList_append, List.append_assoc]
      rfl
  | update table columns clause =>
      change ("UPDATE " ++ table ++ " SET " ++ columns.assignmentText ++ Clause.textOf clause ++
        ";").toList.head? = _
      simp only [String.toList_append, List.append_assoc]
      rfl
  | delete table clause =>
      change ("DELETE FROM " ++ table ++ Clause.textOf clause ++ ";").toList.head? = _
      simp only [String.toList_append, List.append_assoc]
      rfl
  | insert table columns further =>
      change ("INSERT INTO " ++ table ++ " (" ++ columns.text ++ ") VALUES (" ++
        ("?" ++ String.join (List.replicate further ", ?")) ++ ");").toList.head? = _
      simp only [String.toList_append, List.append_assoc]
      rfl

theorem balanced_of_initial {sentence : Sentence} (other : sentence.initial ≠ 'I') :
    sentence.Balanced := by
  cases sentence with
  | select columns table clause => trivial
  | update table columns clause => trivial
  | delete table clause => trivial
  | insert table columns further => exact absurd rfl other

/-- Derivations whose names are words are told apart by their texts. -/
theorem text_injective {left right : Sentence} (leftWords : left.AllNames IsWord)
    (rightWords : right.AllNames IsWord) (same : left.text = right.text) : left = right := by
  have initials : left.initial = right.initial := by
    have heads := congrArg (fun text => text.toList.head?) same
    simp only [head?_text, Option.some.injEq] at heads
    exact heads
  by_cases insertion : left.initial = 'I'
  · -- The number of placeholders is not part of the statement, so insertions are compared apart.
    cases left <;> simp [initial] at insertion
    cases right <;> simp [initial] at initials
    exact insert_text_injective leftWords rightWords same
  · have leftBalanced := balanced_of_initial insertion
    have rightBalanced := balanced_of_initial (initials ▸ insertion)
    have statements := congrArg Statement.read? same
    rw [read?_text leftWords leftBalanced, read?_text rightWords rightBalanced,
      Option.some.injEq] at statements
    exact eq_of_statement leftBalanced rightBalanced statements

end Sentence

/-! ## Statements have derivations -/

theorem exists_termsOf_of_isChain {terms : List Term} (chain : IsChain terms) :
    ∃ clause?, Clause.termsOf clause? = terms := by
  cases chain with
  | nil => exact ⟨none, rfl⟩
  | @cons column terms linked =>
      refine ⟨some ⟨column, terms.map fun term => (Junction.ofLink term.link, term.column)⟩, ?_⟩
      have same : terms.map (fun term =>
          (⟨(Junction.ofLink term.link).link, term.column⟩ : Term)) = terms.map id := by
        apply List.map_congr_left
        intro term member
        rw [Junction.link_ofLink (linked term member)]
        rfl
      change _ :: List.map _ (List.map _ terms) = _
      rw [List.map_map]
      exact congrArg (List.cons _) (same.trans (List.map_id _))

/-- Every regular statement on entries has a derivation. -/
theorem exists_sentence {statement : Statement} (regular : statement.Regular)
    (onEntries : ∀ table columns, statement ≠ .create table columns) :
    ∃ sentence : Sentence, sentence.Balanced ∧ sentence.statement = statement := by
  cases statement with
  | select columns table clause =>
      obtain ⟨nonempty, chain⟩ := regular
      obtain ⟨first, others, rfl⟩ := List.exists_cons_of_ne_nil nonempty
      obtain ⟨clause?, rfl⟩ := exists_termsOf_of_isChain chain
      exact ⟨.select ⟨first, others⟩ table clause?, trivial, rfl⟩
  | update table columns clause =>
      obtain ⟨nonempty, chain⟩ := regular
      obtain ⟨first, others, rfl⟩ := List.exists_cons_of_ne_nil nonempty
      obtain ⟨clause?, rfl⟩ := exists_termsOf_of_isChain chain
      exact ⟨.update table ⟨first, others⟩ clause?, trivial, rfl⟩
  | delete table clause =>
      obtain ⟨clause?, rfl⟩ := exists_termsOf_of_isChain regular
      exact ⟨.delete table clause?, trivial, rfl⟩
  | insert table columns =>
      obtain ⟨first, others, rfl⟩ := List.exists_cons_of_ne_nil regular
      exact ⟨.insert table ⟨first, others⟩ others.length, rfl, rfl⟩
  | create table columns => exact absurd rfl (onEntries table columns)

end EntryStore.Sql
