import EntryStore.Proofs.Mapping.Reading

/-!
# Classes of refusals

A draft is refused for a defect of the mapping it describes.  The same draft read from JSON is
refused in the same words, but as a fault of the text: it then counts among the errors of the
database, as does whatever else is wrong with the text.
-/

namespace EntryStore.Mapping

open Json (Spelling Holds Blanks)

variable {normalize : String → String} {table : String} {entries : List (Field × List String)}

/-- A draft that is refused is a defect of its mapping. -/
theorem isConfigurationDefect_of_build {draft : Draft} {error : Error}
    (refused : (draft.build normalize).mapError Fault.toError = .error error) :
    error.isConfigurationDefect = true ∧ error.isBackend = false := by
  obtain ⟨fault, _, rfl⟩ := Outcome.mapError_eq_error_iff.mp refused
  exact ⟨rfl, rfl⟩

/-- Whatever is wrong with a text, it is no defect of a mapping. -/
theorem isBackend_of_ofJson {text : String} {error : Error}
    (refused : ofJson normalize text = .error error) :
    error.isBackend = true ∧ error.isConfigurationDefect = false := by
  obtain ⟨fault, _, rfl⟩ := Outcome.mapError_eq_error_iff.mp refused
  exact ⟨rfl, rfl⟩

/-- A draft that is refused is a defect of its mapping.  Every text that holds the draft is refused
too, and the error quotes that of the draft; but it is an error of the database and no defect of the
mapping. -/
theorem refused_draft_reported {text : String} (holds : Holds (spelling table entries) text)
    {error : Error}
    (refused : (((Draft.new table).mapAll entries).build normalize).mapError Fault.toError =
      .error error) :
    (error.isConfigurationDefect = true ∧ error.isBackend = false) ∧
      ofJson normalize text = .error (.deserialization error.message) ∧
      ∀ reported, ofJson normalize text = .error reported →
        reported.isBackend = true ∧ reported.isConfigurationDefect = false := by
  refine ⟨isConfigurationDefect_of_build refused, ?_, fun _ => isBackend_of_ofJson⟩
  obtain ⟨fault, failed, rfl⟩ := Outcome.mapError_eq_error_iff.mp refused
  rw [ofJson_eq_build holds, failed]
  rfl

/-- A text of a mapping whose key has no column. -/
def noColumnText : String := "\x7b\"table\": \"test\", \"columns\": \x7b\"key\": []\x7d\x7d"

theorem holds_noColumnText : Holds (spelling "test" [(.key, [])]) noColumnText := by
  have plain : ∀ content, Spelling.string content (Json.stringChars content) := Json.string_written
  have nothing : Blanks [] := Json.blanks_nil
  have blank : Blanks [' '] := List.forall_mem_singleton.mpr rfl
  have columns : Spelling.object [("key", columnsSpelling [])] "\x7b\"key\": []\x7d".toList :=
    ⟨_, .cons nothing ⟨_, [], _, plain "key", nothing,
      ⟨[' '], _, blank, ⟨[], .nil nothing, rfl⟩, rfl⟩, rfl⟩ (.nil nothing), rfl⟩
  exact ⟨[], _, [], nothing, ⟨_, .cons nothing
      ⟨_, [], _, plain "table", nothing, ⟨[' '], _, blank, plain "test", rfl⟩, rfl⟩
      (.cons nothing blank
        ⟨_, [], _, plain "columns", nothing, ⟨[' '], _, blank, columns, rfl⟩, rfl⟩
        (.nil nothing)), rfl⟩, nothing, rfl⟩

theorem refused_draft_reported_sample :
    Holds (spelling "test" [(.key, [])]) noColumnText ∧
      (((Draft.new "test").mapAll [(.key, [])]).build id).mapError Fault.toError =
        .error (.validation "Column key of table test maps to no physical column") ∧
      ofJson id noColumnText = .error (.deserialization
        "Validation error: Column key of table test maps to no physical column") := by
  have refused : (((Draft.new "test").mapAll [(.key, [])]).build id).mapError Fault.toError =
      .error (.validation "Column key of table test maps to no physical column") := rfl
  exact ⟨holds_noColumnText, refused, (refused_draft_reported holds_noColumnText refused).2.1⟩

/-- Not every draft that is refused is refused as a defect of its mapping when it is read from
JSON: one in which a field has no column is not. -/
theorem refusal_read_as_backend_error :
    (((Draft.new "test").mapAll [(.key, [])]).build id).mapError Fault.toError =
        .error (.validation "Column key of table test maps to no physical column") ∧
      Holds (spelling "test" [(.key, [])]) noColumnText ∧
      ¬ ∃ error, ofJson id noColumnText = .error error ∧ error.isConfigurationDefect = true ∧
        error.isBackend = false := by
  refine ⟨rfl, holds_noColumnText, ?_⟩
  rintro ⟨error, refused, defect, _⟩
  rw [(isBackend_of_ofJson refused).2] at defect
  cases defect

end EntryStore.Mapping
