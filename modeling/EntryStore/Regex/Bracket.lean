import EntryStore.Regex.Escape

/-!
# Classes in brackets

Classes list characters and ranges between brackets.  They may be negated, hold other
classes, and be combined by `&&`, `--` and `~~`, from left to right.  How deep classes are
nested is counted along the way.
-/

namespace EntryStore.Regex

/-- The nesting of things that stand side by side, given how deep each of them is nested: several
things make a level of their own. -/
def nestingOf : List Nat → Nat
  | [] => 0
  | [nesting] => nesting
  | nestings => nestings.foldl max 0 + 1

/-- An operator between classes. -/
inductive ClassOp where
  | inter
  | diff
  | symmDiff
  deriving DecidableEq, Repr

/-- A class whose closing bracket has not been reached. -/
structure OpenClass where
  negated : Bool
  /-- what the class holds since the last operator -/
  items : CharSet
  /-- how deep each item since the last operator is nested -/
  nestings : List Nat
  /-- the last operator, what stands before it, and how deep that is nested -/
  pending : Option (ClassOp × CharSet × Nat)
  deriving Repr

namespace OpenClass

/-- A class in which nothing has been read. -/
def new (negated : Bool) : OpenClass := ⟨negated, .empty, [], none⟩

/-- Adds an item. -/
def add (current : OpenClass) (set : CharSet) (nesting : Nat) : OpenClass :=
  { current with
    items := .union current.items set
    nestings := nesting :: current.nestings }

/-- Adds a character. -/
def addChar (current : OpenClass) (c : Char) : OpenClass := current.add (.singleton c) 0

/-- The class up to the present point, its negation apart. -/
def combined (current : OpenClass) (flags : Flags) : CharSet :=
  match current.pending with
  | none => current.items
  | some (.inter, left, _) => .inter (flags.fold left) (flags.fold current.items)
  | some (.diff, left, _) => .diff (flags.fold left) (flags.fold current.items)
  | some (.symmDiff, left, _) => .symmDiff (flags.fold left) (flags.fold current.items)

/-- How deep the class is nested up to the present point, its brackets apart. -/
def nesting (current : OpenClass) : Nat :=
  match current.pending with
  | none => nestingOf current.nestings
  | some (_, _, left) => max left (nestingOf current.nestings) + 1

/-- Continues behind an operator. -/
def operate (current : OpenClass) (flags : Flags) (op : ClassOp) : OpenClass :=
  ⟨current.negated, .empty, [], some (op, current.combined flags, current.nesting)⟩

/-- The class at its closing bracket. -/
def close (current : OpenClass) (flags : Flags) : Option CharSet :=
  flags.finish? current.negated (current.combined flags)

end OpenClass

/-- The dashes that may open a class, which stand for themselves. -/
def leadingDashes (flags : Flags) (current : OpenClass) :
    (fuel : Nat) → List Char → OpenClass × List Char
  | 0, text => (current, text)
  | fuel + 1, text =>
      match text with
      | '-' :: rest =>
          leadingDashes flags (current.addChar '-') fuel (flags.skip rest)
      | rest => (current, rest)

/-- Opens a class, after its bracket: a negation, dashes, or a closing bracket that stands for
itself where it comes first. -/
def openClass (flags : Flags) (text : List Char) : OpenClass × List Char :=
  let text := flags.skip text
  let (negated, text) :=
    match text with
    | '^' :: rest => (true, flags.skip rest)
    | rest => (false, rest)
  match text with
  | ']' :: rest => ((OpenClass.new negated).addChar ']', flags.skip rest)
  | rest => leadingDashes flags (.new negated) rest.length rest

/-- Reads the name of an ASCII class up to its colon. -/
def className : List Char → List Char × List Char
  | [] => ([], [])
  | ':' :: rest => ([], ':' :: rest)
  | c :: rest =>
      let (name, rest) := className rest
      (c :: name, rest)

/-- Reads a named ASCII class such as `[:alpha:]` or, negated, `[:^alpha:]`, after its opening
bracket; `none` where the bracket opens a class of another form. -/
def namedClass? (text : List Char) : Option (Bool × CharSet × List Char) := do
  match text with
  | ':' :: rest =>
      let (negated, rest) :=
        match rest with
        | '^' :: rest => (true, rest)
        | rest => (false, rest)
      let (name, rest) := className rest
      match rest with
      | ':' :: ']' :: rest =>
          return (negated, ← CharSet.named.lookup (String.ofList name), rest)
      | _ => none
  | _ => none

/-- Reads a character or escape in a class. -/
def classPrimitive (flags : Flags) (text : List Char) : Option (Primitive × List Char) :=
  match text with
  | [] => none
  | '\\' :: rest => escapePrimitive flags rest
  | c :: rest => some (.literal c, rest)

/-- Without `u` only ASCII characters may stand in a class. -/
def admitted (flags : Flags) (c : Char) : Bool := flags.unicode || c.toNat < 0x80

/-- Reads a character, an escape or a range in a class. -/
def classItem (flags : Flags) (text : List Char) : Option (CharSet × List Char) := do
  let (first, rest) ← classPrimitive flags text
  let rest := flags.skip rest
  let alone : Option (CharSet × List Char) :=
    match first with
    | .literal c => if admitted flags c then some (.singleton c, rest) else none
    | .set set => some (set, rest)
    | .assertion _ => none
  match rest with
  | [] => none
  | '-' :: afterDash =>
      match flags.skip afterDash with
      | [] => none
      | ']' :: _ | '-' :: _ => alone
      | upper =>
          let (second, rest) ← classPrimitive flags upper
          match first, second with
          | .literal low, .literal high =>
              if low ≤ high && admitted flags high then some (.range low high, rest) else none
          | _, _ => none
  | _ => alone

/-- Reads a class up to its closing bracket and counts how deep it is nested; `outer` holds the
classes around it.  The fuel bounds the items. -/
def classTail (flags : Flags) :
    (fuel : Nat) → OpenClass → (outer : List OpenClass) → List Char →
      Option (CharSet × Nat × List Char)
  | 0, _, _, _ => none
  | fuel + 1, current, outer, text =>
      match flags.skip text with
      | [] => none
      | ']' :: rest => do
          let set ← current.close flags
          let nesting := current.nesting + 1
          match outer with
          | [] => return (set, nesting, rest)
          | parent :: outer => classTail flags fuel (parent.add set nesting) outer rest
      | '[' :: rest =>
          match namedClass? rest with
          | some (negated, set, rest) => do
              classTail flags fuel (current.add (← flags.finish? negated set) 0) outer rest
          | none =>
              let (inner, rest) := openClass flags rest
              classTail flags fuel inner (current :: outer) rest
      | '&' :: '&' :: rest => classTail flags fuel (current.operate flags .inter) outer rest
      | '-' :: '-' :: rest => classTail flags fuel (current.operate flags .diff) outer rest
      | '~' :: '~' :: rest => classTail flags fuel (current.operate flags .symmDiff) outer rest
      | rest => do
          let (set, rest) ← classItem flags rest
          classTail flags fuel (current.add set 0) outer rest

/-- Reads a class, after its opening bracket, and counts how deep it is nested. -/
def bracketClass (flags : Flags) (text : List Char) : Option (CharSet × Nat × List Char) :=
  let (current, rest) := openClass flags text
  classTail flags (text.length + 1) current [] rest

end EntryStore.Regex
