import EntryStore.Proofs.Query.Shape

/-!
# Values stay out of statements

The text of a statement says nothing of the values in its query: they reach the database as
parameters alone, each as the parameter of its own number.  Blanking a query replaces all its
values by one and the same.  A blank query makes the same statement, and steps that differ in
nothing but their values lead to queries that are equal once they are blank.
-/

namespace EntryStore

/-- The value that stands for any other. -/
def Value.blank : Value := .text ""

/-- An assignment without its value. -/
def Assignment.blank (assignment : Assignment) : Assignment := { assignment with value := .blank }

/-- A condition without its value. -/
def Condition.blank (condition : Condition) : Condition := { condition with value := .blank }

/-- An action without its values. -/
def Action.blank : Action → Action
  | .select fields => .select fields
  | .update assignments => .update (assignments.map Assignment.blank)
  | .delete => .delete

namespace Layout

variable {layout : Layout}

theorem targets_blank (assignments : List Assignment) :
    layout.targets (assignments.map Assignment.blank) = layout.targets assignments := by
  simp only [targets, List.mapM_map]
  rfl

theorem clause_blank (conditions : List Condition) :
    layout.clause (conditions.map Condition.blank) = layout.clause conditions := by
  simp only [clause, List.mapM_map]
  rfl

end Layout

namespace Query

/-- A query without its values. -/
def blank : Query → Query
  | .act action filter => .act action.blank ⟨filter.conditions.map Condition.blank⟩
  | .insert assignments => .insert (assignments.map Assignment.blank)

namespace Step

/-- The value that a step brings into a query. -/
def argument : Step → Value
  | .filter _ given | .and _ given | .or _ given | .set _ given | .value _ given => given

/-- A step without its value. -/
def blank : Step → Step
  | .filter field _ => .filter field .blank
  | .and field _ => .and field .blank
  | .or field _ => .or field .blank
  | .set field _ => .set field .blank
  | .value field _ => .value field .blank

end Step

/-- The queries from which all others are built. -/
inductive IsRoot : Query → Prop where
  | select (fields : List Field) : IsRoot (.select fields)
  | update : IsRoot .update
  | delete : IsRoot .delete
  | insertion : IsRoot .insertion

/-- The query after some steps, if all of them succeed. -/
def build (query : Query) (steps : List Step) : Option Query :=
  steps.foldlM (fun query step => (query.step? step).bind Except.toOption) query

theorem IsRoot.params_eq_nil {root : Query} (isRoot : root.IsRoot) : root.params = [] := by
  cases isRoot <;> rfl

/-! ## Steps -/

section Steps

variable {query next final : Query} {step : Step} {steps : List Step}

/-- The first of several steps succeeds, and the others do from where it leads. -/
theorem exists_leads_of_build (built : query.build (step :: steps) = some final) :
    ∃ next, Leads query step next ∧ next.build steps = some final := by
  simp only [build, List.foldlM_cons, Option.bind_eq_bind, Option.bind_eq_some_iff] at built
  obtain ⟨next, ⟨outcome, stepped, succeeded⟩, later⟩ := built
  cases outcome with
  | error defect => simp [Except.toOption] at succeeded
  | ok result =>
      simp only [Except.toOption, Option.some.injEq] at succeeded
      subst succeeded
      exact ⟨result, leads_of_step stepped, later⟩

theorem Leads.functional {other : Query} (leads : Leads query step next)
    (leads' : Leads query step other) : next = other := by
  cases leads <;> cases leads' <;> rfl

/-- A step without its value leads from query to query where the step does. -/
theorem Leads.blank (leads : Leads query step next) :
    Leads query.blank step.blank next.blank := by
  have holds : ∀ field : Field, field.Holds .blank := by
    intro field
    simp [Field.Holds, Value.blank, Value.isText, Value.text?]
  have nonempty : ∀ conditions : List Condition, conditions ≠ [] →
      conditions.map Condition.blank ≠ [] := by
    intro conditions some
    simpa using some
  cases leads with
  | opened _ => exact .opened (holds _)
  | and some _ =>
      simp only [Query.blank, List.map_append, List.map_singleton]
      exact .and (nonempty _ some) (holds _)
  | or some _ =>
      simp only [Query.blank, List.map_append, List.map_singleton]
      exact .or (nonempty _ some) (holds _)
  | set _ =>
      simp only [Query.blank, Action.blank, List.map_append, List.map_singleton]
      exact .set (holds _)
  | value _ =>
      simp only [Query.blank, List.map_append, List.map_singleton]
      exact .value (holds _)

/-- The parameters of a filter follow those of the action. -/
theorem params_act (action : Action) (filter : Filter) :
    (Query.act action filter).params =
      (Query.act action .empty).assignments.map (·.value.parameter) ++
        filter.conditions.map (·.value.parameter) := by
  cases action <;> rfl

/-- A step appends the parameter of its value. -/
theorem Leads.params (leads : Leads query step next) :
    next.params = query.params ++ [step.argument.parameter] := by
  cases leads with
  | opened _ => simp [params_act, Step.argument]
  | and _ _ => simp [params_act, Step.argument]
  | or _ _ => simp [params_act, Step.argument]
  | set _ => simp [Query.params, Query.assignments, Query.conditions, Step.argument]
  | value _ => simp [Query.params, Query.assignments, Query.conditions, Step.argument]

/-- The parameters of a query are those of its steps, in their order. -/
theorem params_of_build (built : query.build steps = some final) :
    final.params = query.params ++ steps.map (·.argument.parameter) := by
  induction steps generalizing query with
  | nil =>
      simp only [build, List.foldlM_nil, Option.pure_def, Option.some.injEq] at built
      simp [built]
  | cons step steps ih =>
      obtain ⟨next, leads, later⟩ := exists_leads_of_build built
      simp [ih later, leads.params]

/-- Steps that differ in their values alone lead to queries that do. -/
theorem blank_eq_of_build {query' final' : Query} {steps' : List Step}
    (same : query.blank = query'.blank) (alike : steps.map Step.blank = steps'.map Step.blank)
    (built : query.build steps = some final) (built' : query'.build steps' = some final') :
    final.blank = final'.blank := by
  induction steps generalizing query query' steps' with
  | nil =>
      have none : steps' = [] := by simpa using alike.symm
      subst none
      simp only [build, List.foldlM_nil, Option.pure_def, Option.some.injEq] at built built'
      rw [← built, ← built', same]
  | cons step steps ih =>
      cases steps' with
      | nil => simp at alike
      | cons step' steps' =>
          simp only [List.map_cons, List.cons.injEq] at alike
          obtain ⟨next, leads, later⟩ := exists_leads_of_build built
          obtain ⟨next', leads', later'⟩ := exists_leads_of_build built'
          have first := leads.blank
          rw [same, alike.1] at first
          exact ih (first.functional leads'.blank) alike.2 later later'

end Steps

/-! ## Statements -/

/-- A statement does not depend on the values of its query. -/
theorem statement_blank (query : Query) (layout : Layout) :
    query.blank.statement layout = query.statement layout := by
  cases query with
  | act action filter =>
      cases action with
      | select fields =>
          cases fields with
          | nil => rfl
          | cons first others => simp only [blank, Action.blank, statement, Layout.clause_blank]
      | update assignments =>
          cases assignments with
          | nil => rfl
          | cons first others =>
              have targets := layout.targets_blank (first :: others)
              rw [List.map_cons] at targets
              simp only [blank, Action.blank, List.map_cons, statement, targets, Layout.clause_blank]
      | delete => simp only [blank, Action.blank, statement, Layout.clause_blank]
  | insert assignments =>
      cases assignments with
      | nil => rfl
      | cons first others =>
          have targets := layout.targets_blank (first :: others)
          rw [List.map_cons] at targets
          simp only [blank, List.map_cons, statement, targets]

/-- Two queries that come from one root by the same steps, but for the values in them, are refused
for the same defect, or they make statements of the same text and width.  The parameters are then
as many as the steps, each the parameter of its own step's value. -/
theorem compile_hides_values (layout : Layout) {root : Query} (isRoot : root.IsRoot)
    {steps steps' : List Step} (alike : steps.map Step.blank = steps'.map Step.blank)
    {query query' : Query} (built : root.build steps = some query)
    (built' : root.build steps' = some query') :
    steps.length = steps'.length ∧
      ((∃ defect, query.compile layout = .error defect ∧
          query'.compile layout = .error defect) ∨
        ∃ sql width,
          query.compile layout = .ok ⟨sql, steps.map (·.argument.parameter), width⟩ ∧
          query'.compile layout = .ok ⟨sql, steps'.map (·.argument.parameter), width⟩) := by
  have params : query.params = steps.map (·.argument.parameter) := by
    simpa [isRoot.params_eq_nil] using params_of_build built
  have params' : query'.params = steps'.map (·.argument.parameter) := by
    simpa [isRoot.params_eq_nil] using params_of_build built'
  have statements : query.statement layout = query'.statement layout := by
    rw [← statement_blank query, ← statement_blank query', blank_eq_of_build rfl alike built built']
  constructor
  · simpa using congrArg List.length alike
  · unfold compile
    rw [← statements, params, params']
    cases query.statement layout with
    | error defect => exact Or.inl ⟨defect, rfl, rfl⟩
    | ok statement => exact Or.inr ⟨statement.print, statement.width, rfl, rfl⟩

theorem compile_hides_values_sample :
    ∃ sql width,
      (Query.act (.update [⟨.value, .text "spawn"⟩])
          ⟨[⟨.key, .text "^home$", .init⟩]⟩).compile Mapping.sample.layout =
        .ok ⟨sql, ["spawn", "^home$"], width⟩ ∧
      (Query.act (.update [⟨.value, .integer 7⟩])
          ⟨[⟨.key, .text "'; DROP TABLE test; --", .init⟩]⟩).compile Mapping.sample.layout =
        .ok ⟨sql, ["7", "'; DROP TABLE test; --"], width⟩ := by
  have outcomes := (@compile_hides_values Mapping.sample.layout _ .update
    [.set .value (.text "spawn"), .filterMatch .key "home" .full]
    [.set .value (.integer 7), .filter .key (.text "'; DROP TABLE test; --")]
    rfl _ _ rfl rfl).2
  rcases outcomes with ⟨defect, refused, _⟩ | compiled
  · cases refused
  · exact compiled

end Query

end EntryStore
