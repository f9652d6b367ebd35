import EntryStore.Sql.Condition
import Mathlib.Data.List.SplitBy

/-!
# Truth of clauses

SQL knows three truth values: a comparison with a missing cell is neither true nor false.
`Condition.truth` is this logic, in which a row passes a condition that is true of it.  On
well-formed patterns the evaluation from left to right that stops early comes to the same
rows.  A clause is true if all terms of one of its runs are, where a new run begins at every
OR.
-/

namespace EntryStore.Sql

/-- Conjunction of truth values; `none` is the value of what is neither true nor false. -/
def conjunction : Option Bool → Option Bool → Option Bool
  | some false, _ => some false
  | _, some false => some false
  | some true, some true => some true
  | _, _ => none

/-- Disjunction of truth values. -/
def disjunction : Option Bool → Option Bool → Option Bool
  | some true, _ => some true
  | _, some true => some true
  | some false, some false => some false
  | _, _ => none

theorem conjunction_eq_true_iff {left right : Option Bool} :
    conjunction left right = some true ↔ left = some true ∧ right = some true := by
  rcases left with _ | _ | _ <;> rcases right with _ | _ | _ <;> simp [conjunction]

theorem disjunction_eq_true_iff {left right : Option Bool} :
    disjunction left right = some true ↔ left = some true ∨ right = some true := by
  rcases left with _ | _ | _ <;> rcases right with _ | _ | _ <;> simp [disjunction]

/-- Items cut in front of every OR. -/
def runs {α : Type} (link : α → Link) (items : List α) : List (List α) :=
  items.splitBy fun _ next => link next != .or

section Runs

variable {α β : Type} {link : α → Link}

/-- The first run goes as far as no OR comes. -/
theorem runs_cons (first : α) (rest : List α) :
    runs link (first :: rest) =
      (first :: rest.takeWhile (link · != .or)) ::
        runs link (rest.dropWhile (link · != .or)) := by
  have chain : (first :: rest.takeWhile (link · != .or)).IsChain
      fun _ next => (link next != .or) = true := by
    rw [List.isChain_cons]
    have linked : ∀ item ∈ rest.takeWhile (link · != .or), (link item != .or) = true :=
      List.all_eq_true.mp List.all_takeWhile
    constructor
    · intro item member
      exact linked item (List.mem_of_mem_head? member)
    · exact List.Pairwise.isChain (List.pairwise_of_forall_mem_list fun _ _ item member =>
        linked item member)
  have cut : ∀ last ∈ (first :: rest.takeWhile (link · != .or)).getLast?,
      ∀ item ∈ (rest.dropWhile (link · != .or)).head?, (link item != .or) = false := by
    intro _ _ item member
    have stopped := List.head?_dropWhile_not (link · != .or) rest
    rw [Option.mem_def.mp member] at stopped
    exact stopped
  have split : first :: rest = (first :: rest.takeWhile (link · != .or)) ++
      rest.dropWhile (link · != .or) := by
    rw [List.cons_append, List.takeWhile_append_dropWhile]
  unfold runs
  rw [split, List.splitBy_append cut, List.splitBy_of_isChain (List.cons_ne_nil _ _) chain]
  rfl

theorem runs_map (image : β → α) (items : List β) :
    runs link (items.map image) =
      (runs (fun item => link (image item)) items).map (List.map image) := by
  -- A run can take any number of items away, so the induction is on the length.
  induction count : items.length using Nat.strongRecOn generalizing items with
  | ind _ ih =>
      cases items with
      | nil => rfl
      | cons first rest =>
          have shorter : (rest.dropWhile fun item => link (image item) != .or).length <
              (first :: rest).length :=
            Nat.lt_succ_of_le (List.dropWhile_sublist _).length_le
          rw [count] at shorter
          rw [List.map_cons, runs_cons, runs_cons, List.takeWhile_map, List.dropWhile_map,
            List.map_cons, List.map_cons]
          exact congrArg _ (ih _ shorter _ rfl)

end Runs

namespace Condition

variable (meaning : PatternMeaning) (row : List (Option String))

/-- The truth of a condition on a row. -/
def truth : Condition → Option Bool
  | .isMatch position pattern => do
      let cell ← row[position]?.join
      return (← meaning pattern) cell
  | .and left right => conjunction (truth left) (truth right)
  | .or left right => disjunction (truth left) (truth right)

/-- All patterns of a condition are well formed. -/
def WellFormed : Condition → Prop
  | .isMatch _ pattern => (meaning pattern).isSome = true
  | .and left right => WellFormed left ∧ WellFormed right
  | .or left right => WellFormed left ∧ WellFormed right

/-- The comparison of a leaf. -/
def test (leaf : Leaf) : Condition := .isMatch leaf.2.1 leaf.2.2

variable {meaning} {row}

/-- A row passes a condition that is true of it, and no other. -/
theorem holds_eq_truth {condition : Condition} (wellFormed : condition.WellFormed meaning) :
    condition.holds meaning row = some (condition.truth meaning row == some true) := by
  induction condition with
  | isMatch position pattern =>
      obtain ⟨matched, known⟩ := Option.isSome_iff_exists.mp wellFormed
      simp only [holds, truth, known, Option.bind_eq_bind, Option.bind_some]
      cases row[position]?.join with
      | none => rfl
      | some cell =>
          simp only [Option.any_some, Option.bind_some]
          cases matched cell <;> rfl
  | and left right leftIH rightIH =>
      -- What is neither true nor false passes for false, which AND and OR do not notice.
      simp only [holds, truth, leftIH wellFormed.1, rightIH wellFormed.2, Option.bind_eq_bind,
        Option.bind_some]
      rcases left.truth meaning row with _ | _ | _ <;>
        rcases right.truth meaning row with _ | _ | _ <;> rfl
  | or left right leftIH rightIH =>
      simp only [holds, truth, leftIH wellFormed.1, rightIH wellFormed.2, Option.bind_eq_bind,
        Option.bind_some]
      rcases left.truth meaning row with _ | _ | _ <;>
        rcases right.truth meaning row with _ | _ | _ <;> rfl

/-! ## Groups -/

theorem group_rest (left : Condition) (leaves : List Leaf) :
    (group left leaves).2 = leaves.dropWhile (·.1 != .or) := by
  induction leaves generalizing left with
  | nil => rfl
  | cons leaf rest ih =>
      rcases leaf with ⟨_ | _ | _, position, pattern⟩
      · exact ih _
      · exact ih _
      · rfl

theorem truth_group (left : Condition) (leaves : List Leaf) :
    (group left leaves).1.truth meaning row = some true ↔
      left.truth meaning row = some true ∧
        ∀ leaf ∈ leaves.takeWhile (·.1 != .or), (test leaf).truth meaning row = some true := by
  induction leaves generalizing left with
  | nil => simp [group]
  | cons leaf rest ih =>
      rcases leaf with ⟨_ | _ | _, position, pattern⟩
      · refine (ih _).trans ?_
        simp only [truth, conjunction_eq_true_iff, test, and_assoc]
        simp
      · refine (ih _).trans ?_
        simp only [truth, conjunction_eq_true_iff, test, and_assoc]
        simp
      · simp [group]

theorem wellFormed_group {left : Condition} {leaves : List Leaf}
    (first : left.WellFormed meaning) (others : ∀ leaf ∈ leaves, (test leaf).WellFormed meaning) :
    (group left leaves).1.WellFormed meaning := by
  induction leaves generalizing left with
  | nil => exact first
  | cons leaf rest ih =>
      obtain ⟨next, later⟩ := List.forall_mem_cons.mp others
      rcases leaf with ⟨_ | _ | _, position, pattern⟩
      · exact ih ⟨first, next⟩ later
      · exact ih ⟨first, next⟩ later
      · exact first

theorem truth_alternatives (left : Condition) (leaves : List Leaf) :
    (alternatives left leaves).truth meaning row = some true ↔
      left.truth meaning row = some true ∨
        ∃ run ∈ runs (·.1) leaves, ∀ leaf ∈ run, (test leaf).truth meaning row = some true := by
  induction left, leaves using alternatives.induct with
  | case1 left => simp [alternatives, runs]
  | case2 left link position pattern rest next ih =>
      rw [alternatives, ih, runs_cons]
      simp only [next, truth, disjunction_eq_true_iff, group_rest, truth_group, or_assoc,
        List.exists_mem_cons_iff, List.forall_mem_cons, test]

theorem wellFormed_alternatives {left : Condition} {leaves : List Leaf}
    (first : left.WellFormed meaning) (others : ∀ leaf ∈ leaves, (test leaf).WellFormed meaning) :
    (alternatives left leaves).WellFormed meaning := by
  induction left, leaves using alternatives.induct with
  | case1 left =>
      rw [alternatives]
      exact first
  | case2 left link position pattern rest next ih =>
      obtain ⟨head, later⟩ := List.forall_mem_cons.mp others
      rw [alternatives]
      refine ih ⟨first, wellFormed_group head later⟩ ?_
      intro leaf member
      rw [group_rest] at member
      exact later leaf (List.dropWhile_sublist _ |>.mem member)

/-! ## Clauses -/

/-- A clause is true if all terms of one of its runs are. -/
theorem truth_ofLeaves {leaves : List Leaf} {condition : Condition}
    (made : ofLeaves leaves = some condition) :
    condition.truth meaning row = some true ↔
      ∃ run ∈ runs (·.1) leaves, ∀ leaf ∈ run, (test leaf).truth meaning row = some true := by
  cases leaves with
  | nil => cases made
  | cons leaf rest =>
      obtain ⟨link, position, pattern⟩ := leaf
      cases made
      rw [truth_alternatives, truth_group, group_rest, runs_cons]
      simp only [List.exists_mem_cons_iff, List.forall_mem_cons, test]

theorem wellFormed_ofLeaves {leaves : List Leaf} {condition : Condition}
    (made : ofLeaves leaves = some condition)
    (each : ∀ leaf ∈ leaves, (test leaf).WellFormed meaning) :
    condition.WellFormed meaning := by
  cases leaves with
  | nil => cases made
  | cons leaf rest =>
      obtain ⟨head, later⟩ := List.forall_mem_cons.mp each
      cases made
      refine wellFormed_alternatives (wellFormed_group head later) ?_
      intro leaf member
      rw [group_rest] at member
      exact later leaf (List.dropWhile_sublist _ |>.mem member)

end Condition

end EntryStore.Sql
