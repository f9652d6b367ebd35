import EntryStore.Mapping.Reader
import EntryStore.Proofs.Identifier
import EntryStore.Proofs.Outcome

/-!
# Checked mappings

All mappings come from drafts, be it directly or by reading JSON.  `Mapping.Sound` collects
what the check of a draft establishes.
-/

namespace EntryStore

open Identifier (IsName NormalForm)

/-- A mapping that a draft makes. -/
def Mapping.Checked (normalize : String → String) (mapping : Mapping) : Prop :=
  ∃ draft : Mapping.Draft, draft.build normalize = .ok mapping

/-- A mapping of names, in which no field is mapped to an empty list. -/
structure Mapping.Sound (mapping : Mapping) : Prop where
  table : IsName mapping.table
  columns : ∀ field names, mapping.columns.get field = some names →
    names ≠ [] ∧ ∀ name ∈ names, IsName name

namespace Mapping

/-- A mapping in which the value has a second column. -/
def sample : Mapping := ⟨"test", ⟨some ["uuid"], some ["identifier"], some ["value", "type"]⟩⟩

theorem checked_sample : sample.Checked id :=
  ⟨⟨"test", ⟨some ["uuid"], some ["identifier"], some ["value", "type"]⟩⟩, rfl⟩

variable {normalize : String → String}

/-- Mappings read from JSON are checked. -/
theorem checked_of_ofJson {text : String} {mapping : Mapping}
    (read : ofJson normalize text = .ok mapping) : mapping.Checked normalize := by
  have decoded : (decoder normalize).decode text = .ok mapping := by
    unfold ofJson at read
    exact Outcome.mapError_eq_ok_iff.mp read
  obtain ⟨⟨stored, rest⟩, accepted, ending⟩ := Outcome.bind_eq_ok_iff.mp decoded
  obtain ⟨⟨draft, _⟩, _, built⟩ := Outcome.bind_eq_ok_iff.mp accepted
  have same : stored = mapping := by
    simp only at ending
    split at ending
    · exact Except.ok.inj ending
    · cases ending
  subst same
  refine ⟨draft, ?_⟩
  simp only at built
  split at built
  · next result passed =>
      cases built
      exact Outcome.mapError_eq_ok_iff.mp passed
  · cases built

theorem Draft.isName_of_acceptName (laws : NormalForm normalize) {name stored : String}
    (accepted : acceptName normalize name = .ok stored) : IsName stored :=
  Identifier.isName_of_accept laws (Outcome.mapError_eq_ok_iff.mp accepted)

theorem Draft.names_of_acceptColumns (laws : NormalForm normalize) {table : String}
    {field : Field} {columns? stored? : Option (List String)}
    (accepted : acceptColumns normalize table field columns? = .ok stored?) {names : List String}
    (stored : stored? = some names) : names ≠ [] ∧ ∀ name ∈ names, IsName name := by
  subst stored
  unfold acceptColumns at accepted
  split at accepted
  · cases accepted
  · cases accepted
  · next columns nonempty =>
      obtain ⟨results, done, same⟩ := Outcome.bind_eq_ok_iff.mp accepted
      cases same
      have pairs := Outcome.mapM_eq_ok_iff.mp done
      constructor
      · rintro rfl
        rw [List.forall₂_nil_right_iff] at pairs
        exact nonempty pairs
      · intro name member
        obtain ⟨_, _, accepted⟩ := Outcome.exists_of_mem_results done member
        exact isName_of_acceptName laws accepted

/-- What a draft makes is sound. -/
theorem Checked.sound (laws : NormalForm normalize) {mapping : Mapping}
    (checked : mapping.Checked normalize) : mapping.Sound := by
  obtain ⟨draft, built⟩ := checked
  obtain ⟨table, tableAccepted, built⟩ := Outcome.bind_eq_ok_iff.mp built
  obtain ⟨owner, ownerAccepted, built⟩ := Outcome.bind_eq_ok_iff.mp built
  obtain ⟨key, keyAccepted, built⟩ := Outcome.bind_eq_ok_iff.mp built
  obtain ⟨value, valueAccepted, built⟩ := Outcome.bind_eq_ok_iff.mp built
  cases built
  constructor
  · exact Draft.isName_of_acceptName laws tableAccepted
  · intro field names stored
    cases field with
    | owner => exact Draft.names_of_acceptColumns laws ownerAccepted stored
    | key => exact Draft.names_of_acceptColumns laws keyAccepted stored
    | value => exact Draft.names_of_acceptColumns laws valueAccepted stored

end Mapping

end EntryStore
