import EntryStore.Json.Decoder

/-!
# The fields of an entry

An entry belongs to an owner, has a key and holds a value.  These three fields are what
queries speak of; which columns of a table hold them is the business of a mapping.
-/

namespace EntryStore

/-- A field of an entry. -/
inductive Field where
  | owner
  | key
  | value
  deriving DecidableEq, Repr, Inhabited

namespace Field

/-- All fields, in the order in which they are declared. -/
def all : List Field := [.owner, .key, .value]

/-- The name under which a field is known outside. -/
def name : Field → String
  | .owner => "total_id"
  | .key => "key"
  | .value => "value"

/-- Whether a field holds values of every kind; the others hold text only. -/
def holdsAnyKind : Field → Bool
  | .value => true
  | .owner | .key => false

@[simp] theorem mem_all (field : Field) : field ∈ all := by
  cases field <;> simp [all]

/-- Fields are read by their names. -/
def decoder : Json.Decoder Field := .ofVariants (all.map fun field => (field.name, field))

end Field

/-- One item for each field. -/
structure PerField (α : Type) where
  owner : α
  key : α
  value : α
  deriving DecidableEq, Repr

namespace PerField

variable {α : Type}

/-- The item of a field. -/
def get (items : PerField α) : Field → α
  | .owner => items.owner
  | .key => items.key
  | .value => items.value

/-- Replaces the item of a field. -/
def set (items : PerField α) (field : Field) (item : α) : PerField α :=
  match field with
  | .owner => { items with owner := item }
  | .key => { items with key := item }
  | .value => { items with value := item }

/-- The same item for every field. -/
def replicate (item : α) : PerField α := ⟨item, item, item⟩

@[simp] theorem get_set_self (items : PerField α) (field : Field) (item : α) :
    (items.set field item).get field = item := by
  cases field <;> rfl

theorem get_set_of_ne (items : PerField α) {field other : Field} (item : α)
    (distinct : other ≠ field) : (items.set field item).get other = items.get other := by
  cases field <;> cases other <;> first | rfl | exact absurd rfl distinct

@[simp] theorem get_replicate (item : α) (field : Field) : (replicate item).get field = item := by
  cases field <;> rfl

end PerField

end EntryStore
