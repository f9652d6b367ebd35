import EntryStore.Regex.Bracket
import EntryStore.Regex.Matcher
import EntryStore.Regex.Size
import EntryStore.Text.Alphabetic
import EntryStore.Text.Numeric

/-!
# Reading patterns

A pattern is read from left to right.  The state holds the group that is open at the
present point, with its finished alternatives and the items of the present one, and the
groups around it.  How deep the pattern is nested is counted along the way: a group, a
repetition, a sequence of several items, several alternatives and a class make a level each.
-/

namespace EntryStore.Regex

/-- A part of a pattern: what it stands for, and how deep it is nested. -/
structure Part where
  regex : Regex
  nesting : Nat
  deriving Repr

/-- An item of an alternative. -/
inductive Item where
  | expr (part : Part)
  /-- a change of flags, which cannot be repeated -/
  | flags
  deriving Repr

/-- How deep an item is nested. -/
def Item.nesting : Item → Nat
  | .expr part => part.nesting
  | .flags => 0

/-- A group whose end has not been reached.  Lists have the latest member first. -/
structure Group where
  /-- the number under which the group is captured, if it is -/
  capture? : Option Nat
  flags : Flags
  alternatives : List Part
  items : List Item
  deriving Repr

namespace Group

/-- A group in which nothing has been read. -/
def new (capture? : Option Nat) (flags : Flags) : Group := ⟨capture?, flags, [], []⟩

/-- Adds an item. -/
def push (group : Group) (regex : Regex) (nesting : Nat) : Group :=
  { group with items := .expr ⟨regex, nesting⟩ :: group.items }

/-- The sequence of items, latest first. -/
def sequence : List Item → Regex
  | [] => .empty
  | [.expr part] => part.regex
  | .expr part :: earlier => .seq (sequence earlier) part.regex
  | .flags :: earlier => sequence earlier

/-- The present alternative. -/
def alternative (group : Group) : Part :=
  ⟨sequence group.items, nestingOf (group.items.map Item.nesting)⟩

/-- Begins another alternative. -/
def alternate (group : Group) : Group :=
  { group with alternatives := group.alternative :: group.alternatives, items := [] }

/-- What a group holds, at its end. -/
def content (group : Group) : Part :=
  ⟨group.alternatives.foldl (fun later earlier => .either earlier.regex later)
      group.alternative.regex,
    nestingOf ((group.alternative :: group.alternatives).map Part.nesting)⟩

/-- Repeats the last item. -/
def repeatLast (group : Group) (least : Nat) (most : Option Nat) (lazily : Bool) :
    Option Group :=
  match group.items with
  | .expr part :: earlier =>
      let regex := .repeated part.regex least most (lazily != group.flags.swapGreed)
      some { group with items := .expr ⟨regex, part.nesting + 1⟩ :: earlier }
  | _ => none

end Group

/-- The state of reading. -/
structure Reading where
  group : Group
  outer : List Group
  /-- how many groups have been captured so far -/
  captures : Nat
  /-- names of groups so far -/
  names : List String
  deriving Repr

namespace Reading

/-- Replaces the open group. -/
def within (state : Reading) (group : Group) : Reading := { state with group := group }

/-- Opens a group inside that is not captured. -/
def enter (state : Reading) (flags : Flags) : Reading :=
  { state with group := .new none flags, outer := state.group :: state.outer }

/-- Opens a group inside that is captured. -/
def capture (state : Reading) : Reading :=
  { state with
    group := .new (some state.captures) state.group.flags
    outer := state.group :: state.outer
    captures := state.captures + 1 }

/-- Closes the open group. -/
def leave (state : Reading) : Option Reading :=
  match state.outer with
  | [] => none
  | parent :: outer =>
      let content := state.group.content
      let regex := .group state.group.capture? content.regex
      some { state with group := parent.push regex (content.nesting + 1), outer := outer }

/-- Changes the flags for the rest of the open group. -/
def setFlags (state : Reading) (flags : Flags) : Reading :=
  state.within { state.group with flags := flags, items := .flags :: state.group.items }

end Reading

/-- Whether a repetition is marked as lazy, and the rest of the pattern. -/
def lazyMark : List Char → Bool × List Char
  | '?' :: rest => (true, rest)
  | rest => (false, rest)

/-- The digits in front of a pattern.  The fuel bounds their number. -/
def countDigits (flags : Flags) :
    (fuel : Nat) → (value? : Option Nat) → List Char → Option Nat × List Char
  | 0, value?, text => (value?, text)
  | fuel + 1, value?, text =>
      match text with
      | [] => (value?, [])
      | c :: rest =>
          if c.isDigit then
            countDigits flags fuel (some (10 * value?.getD 0 + (c.toNat - '0'.toNat)))
              (flags.skip rest)
          else (value?, c :: rest)

/-- The greatest count of a repetition. -/
def maxCount : Nat := 0xFFFFFFFF

/-- Reads a count with blanks around it; there need not be one. -/
def count (flags : Flags) (text : List Char) : Option (Option Nat × List Char) :=
  let digits := text.dropWhile Text.isBlank
  let (value?, rest) := countDigits flags digits.length none digits
  if value?.any (· > maxCount) then none
  else some (value?, flags.skip (rest.dropWhile Text.isBlank))

/-- Reads the counts of a repetition, after the opening brace. -/
def counts (flags : Flags) (text : List Char) : Option (Nat × Option Nat × List Char) := do
  let (least?, rest) ← count flags (flags.skip text)
  match rest with
  | ',' :: rest =>
      match flags.skip rest with
      | '\x7d' :: rest => return (← least?, none, rest)
      | rest =>
          let least ← least?
          let (most?, rest) ← count flags rest
          match rest with
          | '\x7d' :: rest => return (least, some (← most?), rest)
          | _ => none
  | '\x7d' :: rest =>
      let least ← least?
      return (least, some least, rest)
  | _ => none

/-- Reads a counted repetition, after the opening brace. -/
def countedRepetition (state : Reading) (text : List Char) : Option (Reading × List Char) := do
  let flags := state.group.flags
  let (least, most, rest) ← counts flags text
  if most.any (· < least) then none
  else
    let (lazily, rest) := lazyMark (flags.skip rest)
    return (state.within (← state.group.repeatLast least most lazily), rest)

/-- Reads a repetition by a sign, after the sign. -/
def signRepetition (state : Reading) (least : Nat) (most : Option Nat) (text : List Char) :
    Option (Reading × List Char) := do
  let (lazily, rest) := lazyMark text
  return (state.within (← state.group.repeatLast least most lazily), rest)

/-- Flags as they are read: which letters have occurred, whether the next ones are cleared,
and whether the last character was the dash that says so. -/
structure FlagsReading where
  flags : Flags
  seen : List Char
  clearing : Bool
  dangling : Bool

/-- Reads flags up to a colon or closing parenthesis, which is returned too. -/
def flagLetters (state : FlagsReading) :
    List Char → Option (FlagsReading × Char × List Char)
  | [] => none
  | c :: rest =>
      if c = ':' ∨ c = ')' then
        if state.dangling then none else some (state, c, rest)
      else if c ∈ state.seen then none
      else if c = '-' then flagLetters ⟨state.flags, c :: state.seen, true, true⟩ rest
      else
        match state.flags.set? c (!state.clearing) with
        | some flags => flagLetters ⟨flags, c :: state.seen, state.clearing, false⟩ rest
        | none => none

/-- Whether a character may stand in the name of a group. -/
def isNameChar (first : Bool) (c : Char) : Bool :=
  c == '_' || Text.isAlphabetic c ||
    (!first && (c == '.' || c == '[' || c == ']' || Text.isNumeric c))

/-- Reads the name of a group up to its closing angle bracket. -/
def groupName (name : List Char) : List Char → Option (String × List Char)
  | [] => none
  | c :: rest =>
      if c = '>' then
        if name.isEmpty then none else some (String.ofList name.reverse, rest)
      else if isNameChar name.isEmpty c then groupName (c :: name) rest
      else none

/-- Opens a group with a name that no other group has. -/
def namedGroup (state : Reading) (text : List Char) : Option (Reading × List Char) := do
  let (name, rest) ← groupName [] text
  if name ∈ state.names then none
  else
    return ({ state with names := name :: state.names }.capture, rest)

/-- Opens a group or changes flags, after the opening parenthesis.  Assertions on what stands
around a position are not offered. -/
def openGroup (state : Reading) (text : List Char) : Option (Reading × List Char) :=
  let flags := state.group.flags
  match flags.skip text with
  | '?' :: 'P' :: '<' :: rest => namedGroup state rest
  | '?' :: '=' :: _ | '?' :: '!' :: _ => none
  | '?' :: '<' :: '=' :: _ | '?' :: '<' :: '!' :: _ => none
  | '?' :: '<' :: rest => namedGroup state rest
  | '?' :: rest => do
      let (read, mark, rest) ← flagLetters ⟨flags, [], false, false⟩ rest
      if mark = ':' then return (state.enter read.flags, rest)
      else if read.seen.isEmpty then none
      else return (state.setFlags read.flags, rest)
  | rest => some (state.capture, rest)

/-- The expression for a character or escape. -/
def primitiveRegex (flags : Flags) : Primitive → Regex
  | .literal c => .chars (flags.literal c)
  | .set set => .chars set
  | .assertion assertion => .check assertion

/-- Reads one token of a pattern: an operator, or an item. -/
def token (state : Reading) (c : Char) (rest : List Char) : Option (Reading × List Char) :=
  let flags := state.group.flags
  let push := fun (regex : Regex) (nesting : Nat) => state.within (state.group.push regex nesting)
  match c with
  | '(' => openGroup state rest
  | ')' => do return (← state.leave, rest)
  | '|' => some (state.within state.group.alternate, rest)
  | '[' => do
      let (set, nesting, rest) ← bracketClass flags rest
      return (push (.chars set) nesting, rest)
  | '?' => signRepetition state 0 (some 1) rest
  | '*' => signRepetition state 0 none rest
  | '+' => signRepetition state 1 none rest
  | '\x7b' => countedRepetition state rest
  | '.' => do return (push (.chars (← flags.dot?)) 0, rest)
  | '^' => some (push (.check flags.caret) 0, rest)
  | '$' => some (push (.check flags.dollar) 0, rest)
  | '\\' => do
      let (primitive, rest) ← escapePrimitive flags rest
      return (push (primitiveRegex flags primitive) 0, rest)
  | _ => some (push (.chars (flags.literal c)) 0, rest)

/-- Reads tokens to the end of a pattern.  The fuel bounds their number. -/
def tokens : (fuel : Nat) → Reading → List Char → Option Reading
  | 0, _, _ => none
  | fuel + 1, state, text =>
      match state.group.flags.skip text with
      | [] => some state
      | c :: rest => do
          let (state, rest) ← token state c rest
          tokens fuel state rest

/-- How deep a pattern may be nested. -/
def maxNesting : Nat := 250

/-- The expression that a pattern stands for, if the pattern is well formed. -/
def parse? (pattern : String) : Option Regex := do
  let text := pattern.toList
  let state ← tokens (text.length + 1) ⟨.new none {}, [], 0, []⟩ text
  let content := state.group.content
  if state.outer.isEmpty ∧ content.nesting ≤ maxNesting then return content.regex else none

/-- The texts that a pattern matches, if the pattern is well formed, however large it is. -/
def meaning? (pattern : String) : Option (String → Bool) := (parse? pattern).map Regex.isMatch

/-- The texts that a pattern matches, if the pattern is well formed and not too large. -/
def matcher? (pattern : String) : Option (String → Bool) := do
  let regex ← parse? pattern
  if regex.fits then return regex.isMatch else none

end EntryStore.Regex
