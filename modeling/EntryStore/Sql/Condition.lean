import EntryStore.Sql.Statement

/-!
# The meaning of a clause

In a clause AND binds tighter than OR, so the terms fall into groups: each OR begins a new
one.  A clause holds if all terms of some group hold.  A term on a missing cell has no
truth value, which counts as not holding.  Terms are looked at from left to right, and only
as far as needed: a pattern that is never reached is never found to be malformed.
-/

namespace EntryStore.Sql

/-- How patterns are understood: what a pattern matches, if it is well formed. -/
abbrev PatternMeaning := String → Option (String → Bool)

/-- A condition as the database reads it, its columns resolved and its parameters bound. -/
inductive Condition where
  /-- the cell at a position of the row matches a pattern -/
  | isMatch (position : Nat) (pattern : String)
  | and (left right : Condition)
  | or (left right : Condition)
  deriving Repr

namespace Condition

/-- A resolved term. -/
abbrev Leaf := Link × Nat × String

/-- Extends the group at hand by further terms, up to the next OR. -/
def group (left : Condition) : List Leaf → Condition × List Leaf
  | [] => (left, [])
  | (.or, leaf) :: rest => (left, (.or, leaf) :: rest)
  | (_, position, pattern) :: rest => group (.and left (.isMatch position pattern)) rest

theorem group_rest_length (left : Condition) (leaves : List Leaf) :
    (group left leaves).2.length ≤ leaves.length := by
  induction leaves generalizing left with
  | nil => simp [group]
  | cons leaf rest ih =>
      rcases leaf with ⟨_ | _ | _, position, pattern⟩
      · exact Nat.le_succ_of_le (ih _)
      · exact Nat.le_succ_of_le (ih _)
      · exact Nat.le_refl _

/-- Combines the groups of a clause, `left` being the combination so far. -/
def alternatives (left : Condition) (leaves : List Leaf) : Condition :=
  match leaves with
  | [] => left
  | (_, position, pattern) :: rest =>
      let next := group (.isMatch position pattern) rest
      alternatives (.or left next.1) next.2
termination_by leaves.length
decreasing_by exact Nat.lt_succ_of_le (group_rest_length _ _)

/-- The condition of a clause; no condition where there are no terms. -/
def ofLeaves : List Leaf → Option Condition
  | [] => none
  | (_, position, pattern) :: rest =>
      let first := group (.isMatch position pattern) rest
      some (alternatives first.1 first.2)

/-- Whether a row passes a condition; `none` if a malformed pattern is reached. -/
def holds (meaning : PatternMeaning) (row : List (Option String)) : Condition → Option Bool
  | .isMatch position pattern => do
      let matched ← meaning pattern
      return (row[position]?.join).any matched
  | .and left right => do
      if ← left.holds meaning row then right.holds meaning row else return false
  | .or left right => do
      if ← left.holds meaning row then return true else right.holds meaning row

end Condition

end EntryStore.Sql
