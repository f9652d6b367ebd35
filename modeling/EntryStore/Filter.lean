import EntryStore.Mapping
import EntryStore.Pattern
import EntryStore.Value

/-!
# Filters

A filter is a chain of conditions, each of which compares one field with a pattern.  The
first condition opens the chain; every later one says how it is linked to what stands
before it.
-/

namespace EntryStore

/-- How a condition is linked to the chain before it. -/
inductive Link where
  /-- opens the chain -/
  | init
  | and
  | or
  deriving DecidableEq, Repr, Inhabited

namespace Link

/-- The name of a link in messages. -/
def name : Link → String
  | .init => "Init"
  | .and => "And"
  | .or => "Or"

/-- What stands in a statement in front of a condition with this link. -/
def separator : Link → String
  | .init => ""
  | .and => " AND "
  | .or => " OR "

end Link

/-- Why a query cannot be built or made into a statement. -/
inductive Defect where
  /-- a value that is no text for a field that holds text only -/
  | textOnly (field : Field) (value : Value)
  /-- a condition that cannot be linked to a chain of `count` conditions -/
  | misplaced (link : Link) (field : Field) (count : Nat)
  | nothingToSelect
  | nothingToUpdate
  | nothingToInsert
  | unmapped (missing : Unmapped)
  deriving Repr

/-- How a defect is reported. -/
def Defect.toError : Defect → Error
  | .textOnly field value => .valueType field.name (value.kind ++ " value " ++ value.display)
  | .misplaced link field count =>
      .query (link.name ++ " predicate on column " ++ field.name ++ " cannot follow " ++
        toString count ++ " predicate(s)")
  | .nothingToSelect => .query "Cannot select with no columns"
  | .nothingToUpdate => .query "Cannot update with no values"
  | .nothingToInsert => .query "Cannot insert with no values"
  | .unmapped missing => missing.toError

/-- A value for a field. -/
structure Assignment where
  field : Field
  value : Value
  deriving Repr

namespace Assignment

/-- Assigns a value to a field that can hold it. -/
def of (field : Field) (value : Value) : Except Defect Assignment :=
  if field.holdsAnyKind || value.isText then .ok ⟨field, value⟩
  else .error (.textOnly field value)

end Assignment

/-- A condition: the cell of a field matches the pattern that a value stands for. -/
structure Condition where
  field : Field
  value : Value
  link : Link
  deriving Repr

namespace Condition

/-- Compares a field with a value that it could hold. -/
def of (field : Field) (value : Value) (link : Link) : Except Defect Condition := do
  let assignment ← Assignment.of field value
  return ⟨assignment.field, assignment.value, link⟩

end Condition

/-- A chain of conditions, in the order in which they were given. -/
structure Filter where
  conditions : List Condition
  deriving Repr

namespace Filter

/-- The filter without conditions. -/
def empty : Filter := ⟨[]⟩

instance : Inhabited Filter := ⟨empty⟩

def isEmpty (filter : Filter) : Bool := filter.conditions.isEmpty

/-- How many conditions the chain has. -/
def size (filter : Filter) : Nat := filter.conditions.length

/-- Opens a chain. -/
def start (field : Field) (value : Value) : Except Defect Filter := do
  return ⟨[← Condition.of field value .init]⟩

/-- Appends a condition to a chain that is open.  Where the chain does not admit the link, the
value is not looked at. -/
def push (filter : Filter) (field : Field) (value : Value) (link : Link) :
    Except Defect Filter :=
  if filter.isEmpty || link == .init then .error (.misplaced link field filter.size)
  else do return ⟨filter.conditions ++ [← Condition.of field value link]⟩

@[simp] theorem conditions_empty : empty.conditions = [] := rfl

end Filter

end EntryStore
