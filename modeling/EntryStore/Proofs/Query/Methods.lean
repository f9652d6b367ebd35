import EntryStore.Proofs.Query.Independence

/-!
# Calls of methods

A query is built by calls of its methods, and a chain of conditions by pushes.  A call that fails
leaves the query or the chain as it was, so that calls may go on behind it.  After any calls, failed
ones among them, the conditions and assignments are those of the calls that have succeeded, in the
order of the calls.
-/

namespace EntryStore

variable {α β : Type}

/-- What a method compares the cells of a field with. -/
inductive Comparand where
  /-- a value as it stands -/
  | verbatim (value : Value)
  /-- a pattern that has to match a whole word -/
  | exact (pattern : String)
  | anchored (pattern : String) (anchoring : Anchoring)
  deriving Repr

/-- The value that a condition keeps of a comparand. -/
def Comparand.value : Comparand → Value
  | .verbatim value => value
  | .exact pattern => .text (Anchoring.word.anchor pattern)
  | .anchored pattern anchoring => .text (anchoring.anchor pattern)

/-! ## Errors of calls -/

/-- The error that a call reports, if it fails. -/
def reported? : Except Defect α → Option Error
  | .ok _ => none
  | .error defect => some defect.toError

/-- The calls that report no error. -/
def succeeded (calls : List α) (errors : List (Option Error)) : List α :=
  ((calls.zip errors).filter fun (_, error?) => error?.isNone).map Prod.fst

/-- The error of a value that is no text, for a field that holds text only. -/
def Field.fault? (field : Field) (value : Value) : Option Error :=
  if field.holdsAnyKind || value.isText then none
  else some (.valueType field.name (value.kind ++ " value " ++ value.display))

theorem succeeded_cons (call : α) (calls : List α) (error? : Option Error)
    (errors : List (Option Error)) :
    succeeded (call :: calls) (error? :: errors) =
      (if error?.isNone then [call] else []) ++ succeeded calls errors := by
  cases error? <;> rfl

theorem reported?_map (result : Except Defect α) (next : α → β) :
    reported? (result.map next) = reported? result := by
  cases result <;> rfl

/-- A condition fails to be made exactly for a value that its field cannot hold. -/
theorem reported?_condition (field : Field) (value : Value) (link : Link) :
    reported? (Condition.of field value link) = field.fault? value := by
  unfold Condition.of Assignment.of Field.fault?
  split <;> rfl

theorem reported?_assignment (field : Field) (value : Value) :
    reported? (Assignment.of field value) = field.fault? value := by
  unfold Assignment.of Field.fault?
  split <;> rfl

/-! ## Chains that are changed in place -/

namespace Filter

/-- Pushes a condition onto the chain at hand. -/
def pushHere (condition : Condition) : ExceptT Defect (StateM Filter) Unit := do
  let filter ← get
  if filter.isEmpty || condition.link == .init then
    throw (.misplaced condition.link condition.field filter.size)
  let made ← MonadExcept.ofExcept (Condition.of condition.field condition.value condition.link)
  modify fun filter => ⟨filter.conditions ++ [made]⟩

/-- Pushes conditions one after the other, also behind one that has been refused, and keeps the
error of each push. -/
def pushAll (filter : Filter) : List Condition → List (Option Error) × Filter
  | [] => ([], filter)
  | condition :: conditions =>
      let pushed := (pushHere condition).run.run filter
      let later := pushAll pushed.2 conditions
      (reported? pushed.1 :: later.1, later.2)

/-- Why a chain refuses a condition.  The link is judged before the value. -/
def fault? (filter : Filter) (condition : Condition) : Option Error :=
  if filter.conditions = [] ∨ condition.link = .init then
    some (.query (condition.link.name ++ " predicate on column " ++ condition.field.name ++
      " cannot follow " ++ toString filter.conditions.length ++ " predicate(s)"))
  else condition.field.fault? condition.value

/-- A push in place is a push onto a copy that replaces the chain if it succeeds. -/
theorem run_pushHere (filter : Filter) (condition : Condition) :
    (pushHere condition).run.run filter =
      match filter.push condition.field condition.value condition.link with
      | .ok after => (.ok (), after)
      | .error defect => (.error defect, filter) := by
  change StateT.run (ExceptT.run (ite ((filter.isEmpty || condition.link == .init) = true) _ _))
    filter = _
  unfold push
  split
  · rfl
  · change StateT.run (ExceptT.run (MonadExcept.ofExcept (Condition.of _ _ _) >>= _)) filter = _
    cases Condition.of condition.field condition.value condition.link <;> rfl

/-- A push reports why the chain refuses the condition, if it does. -/
theorem reported?_push (filter : Filter) (condition : Condition) :
    reported? (filter.push condition.field condition.value condition.link) =
      filter.fault? condition := by
  have refused : (filter.isEmpty || condition.link == .init) = true ↔
      filter.conditions = [] ∨ condition.link = .init := by
    simp only [isEmpty, Bool.or_eq_true, List.isEmpty_iff, beq_iff_eq]
  unfold push fault?
  by_cases misplaced : filter.conditions = [] ∨ condition.link = .init
  · rw [if_pos misplaced, if_pos (refused.mpr misplaced)]
    rfl
  · rw [if_neg misplaced, if_neg fun refuses => misplaced (refused.mp refuses),
      ← reported?_condition]
    exact reported?_map (Condition.of condition.field condition.value condition.link) _

/-- A push that is refused leaves the chain as it was; any other appends its condition. -/
theorem run_pushHere_of_fault (filter : Filter) (condition : Condition) :
    reported? ((pushHere condition).run.run filter).1 = filter.fault? condition ∧
      ((pushHere condition).run.run filter).2 =
        if (filter.fault? condition).isNone then ⟨filter.conditions ++ [condition]⟩ else filter := by
  have reported := reported?_push filter condition
  rw [run_pushHere, ← reported]
  cases pushed : filter.push condition.field condition.value condition.link with
  | error defect => exact ⟨rfl, rfl⟩
  | ok after =>
      obtain ⟨_, rfl⟩ := (Query.push_yields _ _ _ _).of_ok pushed
      exact ⟨rfl, rfl⟩

theorem linked_push {filter : Filter} {condition : Condition} (linked : Linked filter.conditions)
    (admitted : filter.fault? condition = none) :
    Linked (filter.conditions ++ [condition]) := by
  unfold fault? at admitted
  split at admitted
  · cases admitted
  · next placed =>
      obtain ⟨nonempty, later⟩ := not_or.mp placed
      exact Query.linked_append linked nonempty later

/-- After any pushes a chain has the conditions of those that have succeeded behind its own, and it
is linked if it was. -/
theorem pushAll_conditions (filter : Filter) (conditions : List Condition) :
    (filter.pushAll conditions).2.conditions =
        filter.conditions ++ succeeded conditions (filter.pushAll conditions).1 ∧
      (Linked filter.conditions → Linked (filter.pushAll conditions).2.conditions) := by
  induction conditions generalizing filter with
  | nil => exact ⟨(List.append_nil _).symm, id⟩
  | cons condition conditions ih =>
      obtain ⟨reported, kept⟩ := run_pushHere_of_fault filter condition
      obtain ⟨later, linked⟩ := ih ((pushHere condition).run.run filter).2
      simp only [pushAll]
      rw [succeeded_cons, reported]
      cases fault : filter.fault? condition with
      | none =>
          rw [fault] at kept
          rw [kept] at later linked ⊢
          exact ⟨later.trans (List.append_assoc _ _ _),
            fun before => linked (linked_push before fault)⟩
      | some error =>
          rw [fault] at kept
          rw [kept] at later linked ⊢
          exact ⟨later, linked⟩

end Filter

/-! ## Methods -/

namespace Query

/-- A call of a method of a query. -/
inductive Method where
  /-- opens the filter -/
  | filter (field : Field) (comparand : Comparand)
  | and (field : Field) (comparand : Comparand)
  | or (field : Field) (comparand : Comparand)
  /-- adds an assignment to an update -/
  | set (field : Field) (value : Value)
  /-- adds an assignment to an insertion -/
  | value (field : Field) (value : Value)
  deriving Repr

namespace Method

/-- The step that a call takes. -/
def step : Method → Step
  | .filter field (.verbatim given) => .filter field given
  | .filter field (.exact pattern) => .filterMatch field pattern .word
  | .filter field (.anchored pattern anchoring) => .filterMatch field pattern anchoring
  | .and field (.verbatim given) => .and field given
  | .and field (.exact pattern) => .andMatch field pattern .word
  | .and field (.anchored pattern anchoring) => .andMatch field pattern anchoring
  | .or field (.verbatim given) => .or field given
  | .or field (.exact pattern) => .orMatch field pattern .word
  | .or field (.anchored pattern anchoring) => .orMatch field pattern anchoring
  | .set field given => .set field given
  | .value field given => .value field given

/-- The condition that a call adds, linked according to its method. -/
def condition? : Method → Option Condition
  | .filter field comparand => some ⟨field, comparand.value, .init⟩
  | .and field comparand => some ⟨field, comparand.value, .and⟩
  | .or field comparand => some ⟨field, comparand.value, .or⟩
  | .set _ _ | .value _ _ => none

/-- The assignment that a call adds. -/
def assignment? : Method → Option Assignment
  | .filter _ _ | .and _ _ | .or _ _ => none
  | .set field given | .value field given => some ⟨field, given⟩

/-- Why a call fails. -/
def fault? : Method → Option Error
  | .filter field comparand | .and field comparand | .or field comparand =>
      field.fault? comparand.value
  | .set field given | .value field given => field.fault? given

theorem step_filter (field : Field) (comparand : Comparand) :
    (filter field comparand).step = .filter field comparand.value := by
  cases comparand <;> rfl

theorem step_and (field : Field) (comparand : Comparand) :
    (and field comparand).step = .and field comparand.value := by
  cases comparand <;> rfl

theorem step_or (field : Field) (comparand : Comparand) :
    (or field comparand).step = .or field comparand.value := by
  cases comparand <;> rfl

end Method

/-- What comes of a call: its error, and the query to go on with, which is the same query after a
call that fails.  There is no result where the query does not offer the method. -/
def attempt (query : Query) (method : Method) : Option (Option Error × Query) :=
  (query.step? method.step).map fun outcome =>
    match outcome with
    | .ok next => (none, next)
    | .error defect => (some defect.toError, query)

/-- What comes of several calls, one after the other: the error of each, and the last query. -/
def trace (query : Query) : List Method → Option (List (Option Error) × Query)
  | [] => some ([], query)
  | method :: methods => do
      let (error?, next) ← query.attempt method
      let (errors, final) ← next.trace methods
      return (error? :: errors, final)

/-- The field that a step speaks of. -/
def Step.field : Step → Field
  | .filter field _ | .and field _ | .or field _ | .set field _ | .value field _ => field

section Calls

variable {query next final : Query} {method : Method} {methods : List Method}
variable {error? : Option Error} {errors : List (Option Error)}

theorem reported?_start (field : Field) (value : Value) :
    reported? (Filter.start field value) = field.fault? value := by
  rw [← reported?_condition field value .init]
  exact reported?_map (Condition.of field value .init) _

/-- A chain that is open refuses a condition only for its value. -/
theorem reported?_extension {filter : Filter} (opened : filter.isEmpty = false) (field : Field)
    (value : Value) {link : Link} (later : link ≠ .init) :
    reported? (filter.push field value link) = field.fault? value := by
  have placed : ¬(filter.conditions = [] ∨ link = .init) := by
    rintro (empty | first)
    · rw [Filter.isEmpty, empty] at opened
      cases opened
    · exact later first
  rw [filter.reported?_push ⟨field, value, link⟩, Filter.fault?, if_neg placed]

/-- A step that the query offers fails for its value, or not at all. -/
theorem reported?_step {step : Step} {outcome : Except Defect Query}
    (stepped : query.step? step = some outcome) :
    reported? outcome = step.field.fault? step.argument := by
  unfold step? at stepped
  split at stepped
  · split at stepped
    · cases stepped
      exact (reported?_map _ _).trans (reported?_start _ _)
    · cases stepped
  · split at stepped
    · cases stepped
    · next opened =>
        cases stepped
        exact (reported?_map _ _).trans
          (reported?_extension (Bool.eq_false_iff.mpr opened) _ _ Link.noConfusion)
  · split at stepped
    · cases stepped
    · next opened =>
        cases stepped
        exact (reported?_map _ _).trans
          (reported?_extension (Bool.eq_false_iff.mpr opened) _ _ Link.noConfusion)
  · split at stepped
    · cases stepped
      exact (reported?_map _ _).trans (reported?_assignment _ _)
    · cases stepped
  · cases stepped
    exact (reported?_map _ _).trans (reported?_assignment _ _)
  · cases stepped

theorem Method.fault?_eq (method : Method) :
    method.fault? = method.step.field.fault? method.step.argument := by
  cases method with
  | filter field comparand => rw [step_filter]; rfl
  | and field comparand => rw [step_and]; rfl
  | or field comparand => rw [step_or]; rfl
  | set field given => rfl
  | value field given => rfl

/-- A call that succeeds appends its condition or its assignment. -/
theorem Leads.appends (leads : Leads query method.step next) :
    next.conditions = query.conditions ++ method.condition?.toList ∧
      next.assignments = query.assignments ++ method.assignment?.toList := by
  cases method with
  | filter field comparand =>
      rw [Method.step_filter] at leads
      cases leads with
      | @opened action => cases action <;> exact ⟨rfl, (List.append_nil _).symm⟩
  | and field comparand =>
      rw [Method.step_and] at leads
      cases leads with
      | @and action => cases action <;> exact ⟨rfl, (List.append_nil _).symm⟩
  | or field comparand =>
      rw [Method.step_or] at leads
      cases leads with
      | @or action => cases action <;> exact ⟨rfl, (List.append_nil _).symm⟩
  | set field given =>
      cases leads
      exact ⟨rfl, rfl⟩
  | value field given =>
      cases leads
      exact ⟨rfl, rfl⟩

/-- A call fails for its value and leaves the query as it is, or it appends its condition or its
assignment. -/
theorem attempt_appends (attempted : query.attempt method = some (error?, next)) :
    error? = method.fault? ∧
      next.conditions = query.conditions ++
        (if error?.isNone then [method] else []).filterMap Method.condition? ∧
      next.assignments = query.assignments ++
        (if error?.isNone then [method] else []).filterMap Method.assignment? ∧
      (Linked query.conditions → Linked next.conditions) := by
  obtain ⟨outcome, stepped, same⟩ := Option.map_eq_some_iff.mp attempted
  have reported := reported?_step stepped
  rw [← Method.fault?_eq] at reported
  cases outcome with
  | ok result =>
      cases same
      have leads := leads_of_step stepped
      refine ⟨reported, ?_, ?_, leads.linked⟩
      · rw [leads.appends.1]
        cases condition : method.condition? <;> simp [condition]
      · rw [leads.appends.2]
        cases assignment : method.assignment? <;> simp [assignment]
  | error defect =>
      cases same
      exact ⟨reported, (List.append_nil _).symm, (List.append_nil _).symm, id⟩

/-- After any calls a query has the conditions and the assignments of those that have succeeded
behind its own, and its conditions are linked if they were. -/
theorem trace_appends (traced : query.trace methods = some (errors, final)) :
    errors = methods.map Method.fault? ∧
      final.conditions =
        query.conditions ++ (succeeded methods errors).filterMap Method.condition? ∧
      final.assignments =
        query.assignments ++ (succeeded methods errors).filterMap Method.assignment? ∧
      (Linked query.conditions → Linked final.conditions) := by
  induction methods generalizing query errors with
  | nil =>
      cases traced
      exact ⟨rfl, (List.append_nil _).symm, (List.append_nil _).symm, id⟩
  | cons method methods ih =>
      simp only [trace, Option.bind_eq_bind, Option.bind_eq_some_iff, Prod.exists] at traced
      obtain ⟨error?, next, attempted, errors, last, traced, same⟩ := traced
      cases same
      obtain ⟨reported, condition, assignment, linked⟩ := attempt_appends attempted
      obtain ⟨rest, conditions, assignments, later⟩ := ih traced
      rw [condition, List.append_assoc, ← List.filterMap_append, ← succeeded_cons] at conditions
      rw [assignment, List.append_assoc, ← List.filterMap_append, ← succeeded_cons] at assignments
      refine ⟨?_, conditions, assignments, fun before => later (linked before)⟩
      rw [List.map_cons, reported, rest]

/-- Which methods a query offers: one without conditions those that open its filter, and an update
more assignments; one with conditions those that extend them; and an insertion more assignments. -/
def Offers : Query → Method → Prop
  | .act _ filter, .filter _ _ => filter.conditions = []
  | .act _ filter, .and _ _ | .act _ filter, .or _ _ => filter.conditions ≠ []
  | .act (.update _) filter, .set _ _ => filter.conditions = []
  | .insert _, .value _ _ => True
  | _, _ => False

/-- Every method that a query offers has an outcome. -/
theorem isSome_attempt_iff (query : Query) (method : Method) :
    (query.attempt method).isSome = true ↔ query.Offers method := by
  rw [attempt, Option.isSome_map]
  cases query with
  | act action filter =>
      have open_iff : filter.isEmpty = true ↔ filter.conditions = [] := List.isEmpty_iff
      cases method with
      | filter field comparand =>
          rw [Method.step_filter]
          simp only [step?, Offers, ← open_iff]
          split <;> simp_all
      | and field comparand =>
          rw [Method.step_and]
          simp only [step?, Offers, ← open_iff, ne_eq]
          split <;> simp_all
      | or field comparand =>
          rw [Method.step_or]
          simp only [step?, Offers, ← open_iff, ne_eq]
          split <;> simp_all
      | set field given =>
          cases action with
          | update assignments =>
              simp only [Method.step, step?, Offers, ← open_iff]
              split <;> simp_all
          | select fields => simp [Method.step, step?, Offers]
          | delete => simp [Method.step, step?, Offers]
      | value field given => simp [Method.step, step?, Offers]
  | insert assignments =>
      cases method with
      | filter field comparand => rw [Method.step_filter]; simp [step?, Offers]
      | and field comparand => rw [Method.step_and]; simp [step?, Offers]
      | or field comparand => rw [Method.step_or]; simp [step?, Offers]
      | set field given => simp [Method.step, step?, Offers]
      | value field given => simp [Method.step, step?, Offers]

end Calls

/-- Whatever methods a query has been built by, failed calls among them: each call has failed for
its value or not at all, the conditions and the assignments are those of the other calls in their
order, and the first condition alone opens the filter.  A chain that is changed in place refuses a
condition for its link or else for its value, is then as it was, and otherwise has the conditions of
the pushes that have succeeded in their order. -/
theorem calls_kept_in_order {root : Query} (isRoot : root.IsRoot) {methods : List Method}
    {errors : List (Option Error)} {final : Query}
    (traced : root.trace methods = some (errors, final)) :
    errors = methods.map Method.fault? ∧
      final.conditions = (succeeded methods errors).filterMap Method.condition? ∧
      Linked final.conditions ∧
      final.assignments = (succeeded methods errors).filterMap Method.assignment? ∧
      (∀ method, (final.attempt method).isSome = true ↔ final.Offers method) ∧
      ∀ chain : Filter,
        (∀ condition, reported? ((Filter.pushHere condition).run.run chain).1 =
            chain.fault? condition ∧
          ((Filter.pushHere condition).run.run chain).2 =
            if (chain.fault? condition).isNone then ⟨chain.conditions ++ [condition]⟩
            else chain) ∧
        ∀ conditions, (chain.pushAll conditions).2.conditions =
            chain.conditions ++ succeeded conditions (chain.pushAll conditions).1 ∧
          (Linked chain.conditions → Linked (chain.pushAll conditions).2.conditions) := by
  obtain ⟨reported, conditions, assignments, linked⟩ := trace_appends traced
  have blank : root.conditions = [] ∧ root.assignments = [] := by
    cases isRoot <;> exact ⟨rfl, rfl⟩
  rw [blank.1, List.nil_append] at conditions
  rw [blank.2, List.nil_append] at assignments
  rw [blank.1] at linked
  exact ⟨reported, conditions, linked trivial, assignments, isSome_attempt_iff final,
    fun chain => ⟨chain.run_pushHere_of_fault, chain.pushAll_conditions⟩⟩

theorem calls_kept_in_order_sample :
    ∃ final, Query.update.trace [.set .value (.integer 7), .set .owner (.bool true),
        .filter .key (.exact "home"), .or .owner (.verbatim (.integer 3)),
        .or .owner (.anchored "u" .start), .and .value (.verbatim (.bool false))] =
        some ([none, some (.valueType "total_id" "bool value true"), none,
          some (.valueType "total_id" "integer value 3"), none, none], final) ∧
      final.conditions = [⟨.key, .text "\\bhome\\b", .init⟩, ⟨.owner, .text "^u", .or⟩,
        ⟨.value, .bool false, .and⟩] ∧
      final.assignments = [⟨.value, .integer 7⟩] := by
  have finished : ∃ final, Query.update.trace [.set .value (.integer 7), .set .owner (.bool true),
      .filter .key (.exact "home"), .or .owner (.verbatim (.integer 3)),
      .or .owner (.anchored "u" .start), .and .value (.verbatim (.bool false))] =
      some ([none, some (.valueType "total_id" "bool value true"), none,
        some (.valueType "total_id" "integer value 3"), none, none], final) := ⟨_, rfl⟩
  obtain ⟨final, traced⟩ := finished
  obtain ⟨_, conditions, _, assignments, _⟩ := calls_kept_in_order .update traced
  exact ⟨final, traced, conditions, assignments⟩

end Query

end EntryStore
