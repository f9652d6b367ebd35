import EntryStore.Query.Basic
import EntryStore.Proofs.Outcome

/-!
# Queries built step by step

`Query.Leads` describes what the successful steps do, so that no proof about queries has to
look into `Query.step?` again.  Every query that can be built has a filter in which the first
condition alone is not linked to an earlier one.
-/

namespace EntryStore

open Outcome (Yields)

/-- A field can hold a value. -/
def Field.Holds (field : Field) (value : Value) : Prop :=
  (field.holdsAnyKind || value.isText) = true

/-- A chain of conditions of which the first one alone opens it. -/
def Linked : List Condition → Prop
  | [] => True
  | first :: others => first.link = .init ∧ ∀ condition ∈ others, condition.link ≠ .init

namespace Query

/-- What a successful step does to a query. -/
inductive Leads : Query → Step → Query → Prop where
  | opened {action : Action} {field : Field} {value : Value} :
      field.Holds value →
      Leads (.act action .empty) (.filter field value) (.act action ⟨[⟨field, value, .init⟩]⟩)
  | and {action : Action} {conditions : List Condition} {field : Field} {value : Value} :
      conditions ≠ [] → field.Holds value →
      Leads (.act action ⟨conditions⟩) (.and field value)
        (.act action ⟨conditions ++ [⟨field, value, .and⟩]⟩)
  | or {action : Action} {conditions : List Condition} {field : Field} {value : Value} :
      conditions ≠ [] → field.Holds value →
      Leads (.act action ⟨conditions⟩) (.or field value)
        (.act action ⟨conditions ++ [⟨field, value, .or⟩]⟩)
  | set {assignments : List Assignment} {field : Field} {value : Value} :
      field.Holds value →
      Leads (.act (.update assignments) .empty) (.set field value)
        (.act (.update (assignments ++ [⟨field, value⟩])) .empty)
  | value {assignments : List Assignment} {field : Field} {value : Value} :
      field.Holds value →
      Leads (.insert assignments) (.value field value) (.insert (assignments ++ [⟨field, value⟩]))

/-- A query that comes from a root by successful steps. -/
inductive Built : Query → Prop where
  | select (fields : List Field) : Built (.select fields)
  | update : Built .update
  | delete : Built .delete
  | insertion : Built .insertion
  | step {query next : Query} {step : Step} :
      Built query → query.step? step = some (.ok next) → Built next

/-! ## Steps -/

theorem assignment_yields (field : Field) (value : Value) :
    Yields (Assignment.of field value) (field.Holds value) ⟨field, value⟩ := by
  intro assignment
  unfold Assignment.of Field.Holds
  split
  · next holds => simp only [holds, Except.ok.injEq, true_and, eq_comm]
  · next refused => simp only [refused, reduceCtorEq, false_and]

theorem condition_yields (field : Field) (value : Value) (link : Link) :
    Yields (Condition.of field value link) (field.Holds value) ⟨field, value, link⟩ :=
  (assignment_yields field value).bind_pure _

theorem start_yields (field : Field) (value : Value) :
    Yields (Filter.start field value) (field.Holds value) ⟨[⟨field, value, .init⟩]⟩ :=
  (condition_yields field value .init).bind_pure _

theorem push_yields (filter : Filter) (field : Field) (value : Value) (link : Link) :
    Yields (filter.push field value link)
      ((filter.conditions ≠ [] ∧ link ≠ .init) ∧ field.Holds value)
      ⟨filter.conditions ++ [⟨field, value, link⟩]⟩ := by
  have pushed : Yields (do
      return (⟨filter.conditions ++ [← Condition.of field value link]⟩ : Filter))
      (field.Holds value) ⟨filter.conditions ++ [⟨field, value, link⟩]⟩ :=
    (condition_yields field value link).bind_pure _
  intro next
  unfold Filter.push
  split
  · next refused =>
      simp only [Filter.isEmpty, Bool.or_eq_true, List.isEmpty_iff, beq_iff_eq] at refused
      simp only [reduceCtorEq, false_iff]
      rintro ⟨⟨⟨nonempty, linked⟩, _⟩, _⟩
      exact refused.elim nonempty linked
  · next admitted =>
      simp only [Filter.isEmpty, Bool.or_eq_true, List.isEmpty_iff, beq_iff_eq, not_or]
        at admitted
      exact (pushed.congr (and_iff_right admitted).symm) next

theorem leads_of_step {query next : Query} {step : Step}
    (stepped : query.step? step = some (.ok next)) : Leads query step next := by
  unfold step? at stepped
  split at stepped
  · next action filter field value =>
      split at stepped
      · next empty =>
          obtain ⟨filter', started, rfl⟩ := Outcome.map_eq_ok_iff.mp (Option.some.inj stepped)
          obtain ⟨holds, rfl⟩ := (start_yields field value).of_ok started
          obtain ⟨conditions⟩ := filter
          obtain rfl := List.isEmpty_iff.mp empty
          exact .opened holds
      · cases stepped
  · next action filter field value =>
      split at stepped
      · cases stepped
      · obtain ⟨filter', pushed, rfl⟩ := Outcome.map_eq_ok_iff.mp (Option.some.inj stepped)
        obtain ⟨⟨⟨nonempty, _⟩, holds⟩, rfl⟩ := (push_yields _ field value _).of_ok pushed
        exact .and nonempty holds
  · next action filter field value =>
      split at stepped
      · cases stepped
      · obtain ⟨filter', pushed, rfl⟩ := Outcome.map_eq_ok_iff.mp (Option.some.inj stepped)
        obtain ⟨⟨⟨nonempty, _⟩, holds⟩, rfl⟩ := (push_yields _ field value _).of_ok pushed
        exact .or nonempty holds
  · next assignments filter field value =>
      split at stepped
      · next empty =>
          obtain ⟨assignment, assigned, rfl⟩ := Outcome.map_eq_ok_iff.mp (Option.some.inj stepped)
          obtain ⟨holds, rfl⟩ := (assignment_yields field value).of_ok assigned
          obtain ⟨conditions⟩ := filter
          obtain rfl := List.isEmpty_iff.mp empty
          exact .set holds
      · cases stepped
  · next assignments field value =>
      obtain ⟨assignment, assigned, rfl⟩ := Outcome.map_eq_ok_iff.mp (Option.some.inj stepped)
      obtain ⟨holds, rfl⟩ := (assignment_yields field value).of_ok assigned
      exact .value holds
  · cases stepped

/-! ## Linked conditions -/

theorem linked_append {conditions : List Condition} {condition : Condition}
    (linked : Linked conditions) (nonempty : conditions ≠ []) (later : condition.link ≠ .init) :
    Linked (conditions ++ [condition]) := by
  cases conditions with
  | nil => exact absurd rfl nonempty
  | cons first others =>
      obtain ⟨opens, follow⟩ := linked
      refine ⟨opens, ?_⟩
      intro other member
      rcases List.mem_append.mp member with old | new
      · exact follow other old
      · rw [List.mem_singleton.mp new]
        exact later

theorem Leads.linked {query next : Query} {step : Step} (leads : Leads query step next)
    (linked : Linked query.conditions) : Linked next.conditions := by
  cases leads with
  | opened _ => exact ⟨rfl, List.forall_mem_nil _⟩
  | and nonempty _ => exact linked_append linked nonempty Link.noConfusion
  | or nonempty _ => exact linked_append linked nonempty Link.noConfusion
  | set _ => exact linked
  | value _ => exact linked

/-- The conditions of a query that can be built are linked. -/
theorem Built.linked {query : Query} (built : query.Built) : Linked query.conditions := by
  induction built with
  | select _ => trivial
  | update => trivial
  | delete => trivial
  | insertion => trivial
  | step _ stepped ih => exact (leads_of_step stepped).linked ih

end Query

end EntryStore
