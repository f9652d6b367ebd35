import EntryStore.Proofs.Query.Shape
import EntryStore.Proofs.Sql.Grammar

/-!
# Compiled queries read back

The text of a compiled query is a sentence of the grammar of statements, with one derivation,
and this derivation reads the shape of the query.  What a name may be and how a statement is
written come together here: no name that the checks admit contains what the grammar puts
around names.
-/

namespace EntryStore.Query

open Sql (Sentence Prepared)
open Identifier (IsName NormalForm)

variable {normalize : String → String} {mapping : Mapping}

/-- A complete query has a derivation whose names are names of the mapping. -/
theorem exists_sentence_shape (sound : mapping.Sound) {query : Query}
    (linked : Linked query.conditions) (complete : query.Complete mapping.layout) :
    ∃ sentence : Sentence, sentence.AllNames IsName ∧
      sentence.text = (query.shape mapping.layout).print ∧
      sentence.statement = query.shape mapping.layout := by
  have onEntries : ∀ table columns, query.shape mapping.layout ≠ .create table columns := by
    intro table columns
    rcases query with ⟨_ | _ | _, _⟩ | _ <;> exact Sql.Statement.noConfusion
  obtain ⟨sentence, balanced, reads⟩ :=
    Sql.exists_sentence (regular_shape linked complete) onEntries
  refine ⟨sentence, ?_, ?_, reads⟩
  · unfold Sentence.AllNames
    rw [reads]
    exact allNames_shape sound complete
  · rw [← reads]
    exact Sentence.text_eq_print balanced

/-- Sentences of names are told apart by their texts. -/
theorem sentence_eq_of_text {left right : Sentence} (leftNames : left.AllNames IsName)
    (rightNames : right.AllNames IsName) (same : left.text = right.text) : left = right :=
  Sentence.text_injective (leftNames.imp fun _ => Sql.isWord_of_isName)
    (rightNames.imp fun _ => Sql.isWord_of_isName) same

/-- The width of a result is the number of columns that the selected fields have. -/
theorem width_shape (layout : Layout) (query : Query) :
    (query.shape layout).width = (query.fields.flatMap layout.columnsOf).length := by
  rcases query with ⟨_ | _ | _, _⟩ | _ <;> rfl

/-- The text of a compiled query is a sentence with one derivation, which reads the shape of the
query, as wide as the columns of the selected fields.  So two queries over one mapping that
compile into the same text have the same shape. -/
theorem compile_reads_back (laws : NormalForm normalize) (checked : mapping.Checked normalize)
    {query : Query} (built : query.Built) {prepared : Prepared}
    (compiled : query.compile mapping.layout = .ok prepared) :
    (∃! sentence : Sentence, sentence.AllNames IsName ∧ sentence.text = prepared.sql) ∧
      (∀ sentence : Sentence, sentence.AllNames IsName → sentence.text = prepared.sql →
        sentence.statement = query.shape mapping.layout) ∧
      prepared.width = (query.fields.flatMap mapping.layout.columnsOf).length ∧
      ∀ (other : Query) (otherPrepared : Prepared), other.Built →
        other.compile mapping.layout = .ok otherPrepared → otherPrepared.sql = prepared.sql →
        other.shape mapping.layout = query.shape mapping.layout := by
  have sound := checked.sound laws
  obtain ⟨complete, rfl⟩ := (compile_yields _).of_ok compiled
  obtain ⟨sentence, names, text, reads⟩ := exists_sentence_shape sound built.linked complete
  -- No name contains what stands around names, so the text leaves no choice.
  have unique : ∀ other : Sentence, other.AllNames IsName →
      other.text = (query.shape mapping.layout).print → other = sentence :=
    fun other otherNames otherText =>
      sentence_eq_of_text otherNames names (otherText.trans text.symm)
  refine ⟨⟨sentence, ⟨names, text⟩, fun other found => unique other found.1 found.2⟩, ?_,
    width_shape _ _, ?_⟩
  · intro other otherNames otherText
    rw [unique other otherNames otherText, reads]
  · intro other otherPrepared otherBuilt otherCompiled same
    obtain ⟨otherComplete, rfl⟩ := (compile_yields other).of_ok otherCompiled
    obtain ⟨otherSentence, otherNames, otherText, otherReads⟩ :=
      exists_sentence_shape sound otherBuilt.linked otherComplete
    rw [← otherReads, unique otherSentence otherNames (otherText.trans same), reads]

theorem compile_reads_back_sample :
    ∃! sentence : Sentence, sentence.AllNames IsName ∧ sentence.text =
      "SELECT value, type, uuid FROM test WHERE identifier REGEXP ? OR uuid REGEXP ?;" := by
  have opened : (Query.act (.select [.value, .owner])
      ⟨[⟨.key, .text "a", .init⟩]⟩).Built :=
    @Built.step _ _ (.filter .key (.text "a")) (.select [.value, .owner]) rfl
  have built : (Query.act (.select [.value, .owner])
      ⟨[⟨.key, .text "a", .init⟩, ⟨.owner, .text "b", .or⟩]⟩).Built :=
    @Built.step _ _ (.or .owner (.text "b")) opened rfl
  have compiled : (Query.act (.select [.value, .owner])
      ⟨[⟨.key, .text "a", .init⟩, ⟨.owner, .text "b", .or⟩]⟩).compile Mapping.sample.layout =
      .ok ⟨"SELECT value, type, uuid FROM test WHERE identifier REGEXP ? OR uuid REGEXP ?;",
        ["a", "b"], 3⟩ := rfl
  exact (compile_reads_back Identifier.normalForm_id Mapping.checked_sample built compiled).1

end EntryStore.Query
