import Mathlib.Data.List.Forall2

/-!
# Outcomes

What it means that a computation in `Except` has succeeded: each of its steps has.  `Yields`
foresees when a computation succeeds and with what, `Reports` when it fails and with what: the
fault of the first step that fails.
-/

namespace EntryStore.Outcome

variable {ε ε' α β : Type}

theorem ok_bind (a : α) (next : α → Except ε β) : (.ok a >>= next) = next a := rfl

theorem bind_eq_ok_iff {step : Except ε α} {next : α → Except ε β} {result : β} :
    step >>= next = .ok result ↔ ∃ a, step = .ok a ∧ next a = .ok result := by
  cases step with
  | error fault => simp [bind, Except.bind]
  | ok a => simp [bind, Except.bind]

theorem bind_eq_error_iff {step : Except ε α} {next : α → Except ε β} {fault : ε} :
    step >>= next = .error fault ↔
      step = .error fault ∨ ∃ a, step = .ok a ∧ next a = .error fault := by
  cases step with
  | error cause => simp [bind, Except.bind]
  | ok a => simp [bind, Except.bind]

/-- A computation of which only the result is changed fails as it does itself. -/
theorem bind_pure_eq_error_iff {step : Except ε α} {finish : α → β} {fault : ε} :
    (step >>= fun a => pure (finish a)) = .error fault ↔ step = .error fault := by
  cases step with
  | error cause => simp [bind, Except.bind]
  | ok a => simp [bind, Except.bind, pure, Except.pure]

theorem map_eq_ok_iff {step : Except ε α} {next : α → β} {result : β} :
    step.map next = .ok result ↔ ∃ a, step = .ok a ∧ next a = result := by
  cases step with
  | error fault => simp [Except.map]
  | ok a => simp [Except.map]

theorem map_eq_error_iff {step : Except ε α} {next : α → β} {fault : ε} :
    step.map next = .error fault ↔ step = .error fault := by
  cases step with
  | error cause => simp [Except.map]
  | ok a => simp [Except.map]

theorem mapError_eq_ok_iff {step : Except ε α} {reword : ε → ε'} {result : α} :
    step.mapError reword = .ok result ↔ step = .ok result := by
  cases step with
  | error fault => simp [Except.mapError]
  | ok a => simp [Except.mapError]

theorem mapError_eq_error_iff {step : Except ε α} {reword : ε → ε'} {fault : ε'} :
    step.mapError reword = .error fault ↔ ∃ cause, step = .error cause ∧ reword cause = fault := by
  cases step with
  | error cause => simp [Except.mapError]
  | ok a => simp [Except.mapError]

/-- A step for each item of a list succeeds if all of them do. -/
theorem mapM_eq_ok_iff {step : α → Except ε β} {list : List α} {results : List β} :
    list.mapM step = .ok results ↔ List.Forall₂ (fun a b => step a = .ok b) list results := by
  induction list generalizing results with
  | nil =>
      rw [List.mapM_nil, List.forall₂_nil_left_iff]
      exact ⟨fun same => (Except.ok.inj same).symm, fun same => same ▸ rfl⟩
  | cons a list ih =>
      rw [List.mapM_cons, bind_eq_ok_iff, List.forall₂_cons_left_iff]
      constructor
      · rintro ⟨b, first, others⟩
        obtain ⟨rest, later, same⟩ := bind_eq_ok_iff.mp others
        exact ⟨b, rest, first, ih.mp later, (Except.ok.inj same).symm⟩
      · rintro ⟨b, rest, first, later, rfl⟩
        exact ⟨b, first, bind_eq_ok_iff.mpr ⟨rest, ih.mpr later, rfl⟩⟩

/-- Every result is that of some item. -/
theorem exists_of_mem_results {step : α → Except ε β} {list : List α} {results : List β}
    (done : list.mapM step = .ok results) {b : β} (member : b ∈ results) :
    ∃ a ∈ list, step a = .ok b := by
  rw [mapM_eq_ok_iff] at done
  induction done with
  | nil => cases member
  | @cons a _ list _ first _ ih =>
      cases member with
      | head => exact ⟨a, List.mem_cons_self, first⟩
      | tail _ member =>
          obtain ⟨origin, originMember, same⟩ := ih member
          exact ⟨origin, List.mem_cons_of_mem _ originMember, same⟩

/-- Every item has a result. -/
theorem exists_of_mem {step : α → Except ε β} {list : List α} {results : List β}
    (done : list.mapM step = .ok results) {a : α} (member : a ∈ list) : ∃ b, step a = .ok b := by
  rw [mapM_eq_ok_iff] at done
  induction done with
  | nil => cases member
  | cons first _ ih =>
      cases member with
      | head => exact ⟨_, first⟩
      | tail _ member => exact ih member

/-- The fault of a list of steps is that of some item. -/
theorem exists_of_mapM_eq_error {step : α → Except ε β} {list : List α} {fault : ε}
    (failed : list.mapM step = .error fault) : ∃ a ∈ list, step a = .error fault := by
  induction list with
  | nil => cases failed
  | cons a list ih =>
      rw [List.mapM_cons] at failed
      cases first : step a with
      | error cause =>
          rw [first] at failed
          cases failed
          exact ⟨a, List.mem_cons_self, first⟩
      | ok b =>
          rw [first] at failed
          cases rest : list.mapM step with
          | error cause =>
              simp only [rest] at failed
              cases failed
              obtain ⟨origin, member, same⟩ := ih rest
              exact ⟨origin, List.mem_cons_of_mem _ member, same⟩
          | ok results =>
              simp only [rest] at failed
              cases failed

/-- A list of steps fails as its first step does that fails. -/
theorem mapM_eq_error_iff {step : α → Except ε β} {list : List α} {fault : ε} :
    list.mapM step = .error fault ↔
      ∃ before a after, list = before ++ a :: after ∧
        (∀ earlier ∈ before, ∃ b, step earlier = .ok b) ∧ step a = .error fault := by
  induction list with
  | nil =>
      rw [List.mapM_nil]
      simp [pure, Except.pure]
  | cons first rest ih =>
      rw [List.mapM_cons]
      cases done : step first with
      | error cause =>
          constructor
          · intro failed
            obtain rfl := Except.error.inj failed
            exact ⟨[], first, rest, rfl, List.forall_mem_nil _, done⟩
          · rintro ⟨before, a, after, split, passed, failed⟩
            cases before with
            | nil =>
                obtain ⟨rfl, rfl⟩ := List.cons.inj split
                obtain rfl := Except.error.inj (done.symm.trans failed)
                rfl
            | cons earlier before =>
                obtain ⟨rfl, rfl⟩ := List.cons.inj split
                obtain ⟨b, passed⟩ := passed _ List.mem_cons_self
                cases done.symm.trans passed
      | ok b =>
          rw [ok_bind, bind_pure_eq_error_iff, ih]
          constructor
          · rintro ⟨before, a, after, rfl, passed, failed⟩
            exact ⟨first :: before, a, after, rfl,
              List.forall_mem_cons.mpr ⟨⟨b, done⟩, passed⟩, failed⟩
          · rintro ⟨before, a, after, split, passed, failed⟩
            cases before with
            | nil =>
                obtain ⟨rfl, rfl⟩ := List.cons.inj split
                cases done.symm.trans failed
            | cons earlier before =>
                obtain ⟨rfl, rfl⟩ := List.cons.inj split
                exact ⟨before, a, after, rfl, (List.forall_mem_cons.mp passed).2, failed⟩

/-- A list of steps succeeds if each step does. -/
theorem exists_mapM_eq_ok_iff {step : α → Except ε β} {list : List α} :
    (∃ results, list.mapM step = .ok results) ↔ ∀ a ∈ list, ∃ b, step a = .ok b := by
  constructor
  · rintro ⟨results, done⟩ a member
    exact exists_of_mem done member
  · intro passed
    cases done : list.mapM step with
    | ok results => exact ⟨results, rfl⟩
    | error fault =>
        obtain ⟨a, member, failed⟩ := exists_of_mapM_eq_error done
        obtain ⟨b, passed⟩ := passed a member
        cases failed.symm.trans passed

theorem mapM_eq_ok {step : α → Except ε β} {result : α → β} {list : List α}
    (succeeds : ∀ a ∈ list, step a = .ok (result a)) :
    list.mapM step = .ok (list.map result) := by
  rw [mapM_eq_ok_iff, List.forall₂_map_right_iff, List.forall₂_same]
  exact succeeds

/-- A loop that only checks its items fails as looking them all up does. -/
theorem forIn_discard (step : α → Except ε β) (list : List α) :
    (forIn list PUnit.unit fun a _ => do
        discard (step a)
        pure (ForInStep.yield PUnit.unit) : Except ε PUnit) =
      list.mapM step >>= fun _ => pure PUnit.unit := by
  induction list with
  | nil => rfl
  | cons a list ih =>
      rw [List.forIn_cons, List.mapM_cons]
      cases first : step a with
      | error fault => rfl
      | ok b =>
          refine ih.trans ?_
          cases list.mapM step <;> rfl

/-! ## Foreseen outcomes -/

/-- A computation that succeeds exactly under a condition, and then with a known result. -/
def Yields (step : Except ε α) (condition : Prop) (result : α) : Prop :=
  ∀ a, step = .ok a ↔ condition ∧ a = result

namespace Yields

variable {condition condition' : Prop} {result : α}

theorem of_ok {step : Except ε α} (yields : Yields step condition result) {a : α}
    (done : step = .ok a) : condition ∧ a = result := (yields a).mp done

theorem eq_ok {step : Except ε α} (yields : Yields step condition result) (holds : condition) :
    step = .ok result := (yields result).mpr ⟨holds, rfl⟩

theorem congr {step : Except ε α} (yields : Yields step condition result)
    (same : condition ↔ condition') : Yields step condition' result := by
  intro a
  rw [yields a, same]

theorem ok (result : α) : Yields (.ok result : Except ε α) True result := by
  intro a
  rw [Except.ok.injEq, true_and, eq_comm]

theorem error (fault : ε) (refused : ¬condition) :
    Yields (.error fault : Except ε α) condition result := by
  intro a
  simp only [reduceCtorEq, refused, false_and]

theorem bind {step : Except ε α} {next : α → Except ε β} {final : β}
    (first : Yields step condition result) (second : Yields (next result) condition' final) :
    Yields (step >>= next) (condition ∧ condition') final := by
  intro b
  rw [bind_eq_ok_iff]
  constructor
  · rintro ⟨a, done, later⟩
    obtain ⟨holds, rfl⟩ := first.of_ok done
    obtain ⟨holds', same⟩ := second.of_ok later
    exact ⟨⟨holds, holds'⟩, same⟩
  · rintro ⟨⟨holds, holds'⟩, rfl⟩
    exact ⟨result, first.eq_ok holds, second.eq_ok holds'⟩

/-- A computation of which only the result is changed. -/
theorem bind_pure {step : Except ε α} (yields : Yields step condition result) (finish : α → β) :
    Yields (step >>= fun a => pure (finish a)) condition (finish result) := by
  have whole : Yields (step >>= fun a => .ok (finish a)) (condition ∧ True) (finish result) :=
    yields.bind (ok _)
  exact whole.congr (and_iff_left trivial)

theorem mapError {step : Except ε α} (yields : Yields step condition result)
    (reword : ε → ε') : Yields (step.mapError reword) condition result := by
  intro a
  rw [mapError_eq_ok_iff, yields a]

theorem mapM {step : α → Except ε β} {condition : α → Prop} {result : α → β}
    (each : ∀ a, Yields (step a) (condition a) (result a)) (list : List α) :
    Yields (list.mapM step) (∀ a ∈ list, condition a) (list.map result) := by
  induction list with
  | nil => exact (ok _).congr (iff_of_true trivial (List.forall_mem_nil _))
  | cons a list ih =>
      rw [List.mapM_cons]
      exact ((each a).bind (ih.bind_pure _)).congr List.forall_mem_cons.symm

end Yields

/-! ## Foreseen faults -/

/-- A computation that fails exactly if a fault is foreseen, and then with that fault. -/
def Reports (step : Except ε α) (fault? : Option ε) : Prop :=
  ∀ fault, step = .error fault ↔ fault? = some fault

namespace Reports

variable {fault? : Option ε}

theorem exists_ok_iff {step : Except ε α} (reports : Reports step fault?) :
    (∃ a, step = .ok a) ↔ fault? = none := by
  cases step with
  | error fault => simp [(reports fault).mp rfl]
  | ok a =>
      cases fault? with
      | none => simp
      | some fault => cases (reports fault).mpr rfl

theorem ok (result : α) : Reports (.ok result : Except ε α) none := by
  intro fault
  simp

theorem error (fault : ε) : Reports (.error fault : Except ε α) (some fault) := by
  intro other
  simp

/-- A step that follows another one is reached only if that one succeeds. -/
theorem bind {later? : Option ε} {step : Except ε α} {next : α → Except ε β}
    (first : Reports step fault?) (second : ∀ a, step = .ok a → Reports (next a) later?) :
    Reports (step >>= next) (fault?.or later?) := by
  cases step with
  | error fault =>
      rw [(first fault).mp rfl]
      exact error fault
  | ok a =>
      rw [first.exists_ok_iff.mp ⟨a, rfl⟩]
      exact second a rfl

/-- A computation of which only the result is changed. -/
theorem bind_pure {step : Except ε α} (reports : Reports step fault?) (finish : α → β) :
    Reports (step >>= fun a => pure (finish a)) fault? := by
  intro fault
  rw [bind_pure_eq_error_iff, reports fault]

theorem mapError {step : Except ε α} (reports : Reports step fault?) (reword : ε → ε') :
    Reports (step.mapError reword) (fault?.map reword) := by
  intro fault
  rw [mapError_eq_error_iff, Option.map_eq_some_iff]
  exact exists_congr fun cause => and_congr_left fun _ => reports cause

/-- Of the faults of a list of steps the first one is reported. -/
theorem mapM {step : α → Except ε β} {fault? : α → Option ε}
    (each : ∀ a, Reports (step a) (fault? a)) (list : List α) :
    Reports (list.mapM step) (list.findSome? fault?) := by
  induction list with
  | nil => exact ok _
  | cons a list ih =>
      rw [List.mapM_cons, List.findSome?_cons]
      have reported := (each a).bind fun b _ => ih.bind_pure fun results => b :: results
      cases foreseen : fault? a with
      | none =>
          rw [foreseen] at reported
          exact reported
      | some fault =>
          rw [foreseen] at reported
          exact reported

end Reports

end EntryStore.Outcome
