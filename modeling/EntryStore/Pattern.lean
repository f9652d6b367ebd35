import EntryStore.Json.Decoder

/-!
# Search patterns

Filters compare a cell with a regular expression.  A literal text becomes a pattern by
escaping what a regular expression would read as an operator, and an `Anchoring` says
which part of the cell a pattern has to cover.
-/

namespace EntryStore

namespace Pattern

/-- The characters that have a meaning of their own in a pattern. -/
def operators : List Char :=
  ['\\', '.', '+', '*', '?', '(', ')', '|', '[', ']', '\x7b', '\x7d', '^', '$', '#', '&', '-', '~']

/-- One character of a literal as it stands in a pattern. -/
def escapeChar (c : Char) : List Char := if c ∈ operators then ['\\', c] else [c]

/-- The pattern that a literal text stands for. -/
def escape (literal : String) : String :=
  String.ofList (literal.toList.flatMap escapeChar)

end Pattern

/-- The part of a cell that a pattern has to match. -/
inductive Anchoring where
  /-- any part -/
  | contains
  /-- a part between word boundaries -/
  | word
  /-- a part at the start -/
  | start
  /-- a part at the end -/
  | finish
  /-- the whole cell -/
  | full
  deriving DecidableEq, Repr, Inhabited

namespace Anchoring

/-- All anchorings, in the order in which they are declared. -/
def all : List Anchoring := [.contains, .word, .start, .finish, .full]

/-- The name under which an anchoring is known outside. -/
def name : Anchoring → String
  | .contains => "contains"
  | .word => "exact"
  | .start => "starts_with"
  | .finish => "ends_with"
  | .full => "full"

/-- Wraps a pattern in the assertions of an anchoring. -/
def anchor (anchoring : Anchoring) (pattern : String) : String :=
  match anchoring with
  | .contains => pattern
  | .word => "\\b" ++ pattern ++ "\\b"
  | .start => "^" ++ pattern
  | .finish => pattern ++ "$"
  | .full => "^" ++ pattern ++ "$"

/-- Patterns match anywhere unless an anchoring is given. -/
def standard : Anchoring := .contains

/-- Anchorings are read by their names. -/
def decoder : Json.Decoder Anchoring :=
  .ofVariants (all.map fun anchoring => (anchoring.name, anchoring))

end Anchoring

end EntryStore
