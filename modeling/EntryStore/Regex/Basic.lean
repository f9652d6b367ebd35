import EntryStore.Regex.CharSet

/-!
# Regular expressions

The form of a regular expression.  Whether a text matches does not depend on groups, nor on
whether a repetition is lazy; how large the expression becomes when it is prepared for
matching does.
-/

namespace EntryStore

/-- Where a word begins or ends. -/
inductive WordEdge where
  /-- between a character of a word and one that is none, or the end of the text -/
  | boundary
  | noBoundary
  | start
  | finish
  /-- no character of a word before -/
  | startHalf
  /-- no character of a word after -/
  | finishHalf
  deriving DecidableEq, Repr

/-- A condition on a position in a text. -/
inductive Assertion where
  | textStart
  | textEnd
  | lineStart
  | lineEnd
  /-- like `lineStart`, for lines that may also end in a carriage return -/
  | crlfLineStart
  /-- like `lineEnd`, for lines that may also end in a carriage return -/
  | crlfLineEnd
  | wordEdge (edge : WordEdge)
  /-- the same for words of ASCII characters -/
  | asciiWordEdge (edge : WordEdge)
  deriving DecidableEq, Repr

namespace Assertion

/-- Whether a word edge lies between two positions, given whether there is a character of a
word before and after it. -/
def edgeHolds (edge : WordEdge) (before after : Bool) : Bool :=
  match edge with
  | .boundary => before != after
  | .noBoundary => before == after
  | .start => !before && after
  | .finish => before && !after
  | .startHalf => !before
  | .finishHalf => !after

/-- Whether a condition holds between two characters; at either end of the text one of them is
missing. -/
def holds (assertion : Assertion) (before after : Option Char) : Bool :=
  match assertion with
  | .textStart => before.isNone
  | .textEnd => after.isNone
  | .lineStart => before.isNone || before == some '\n'
  | .lineEnd => after.isNone || after == some '\n'
  | .crlfLineStart =>
      before.isNone || before == some '\n' || (before == some '\r' && after != some '\n')
  | .crlfLineEnd =>
      after.isNone || after == some '\r' || (after == some '\n' && before != some '\r')
  | .wordEdge edge => edgeHolds edge (before.any Text.isWordChar) (after.any Text.isWordChar)
  | .asciiWordEdge edge =>
      edgeHolds edge (before.any CharSet.asciiWord.contains) (after.any CharSet.asciiWord.contains)

end Assertion

/-- A regular expression. -/
inductive Regex where
  /-- matches the empty text -/
  | empty
  /-- matches one character -/
  | chars (set : CharSet)
  /-- matches the empty text where a condition holds -/
  | check (assertion : Assertion)
  | seq (first second : Regex)
  | either (left right : Regex)
  /-- matches `least` to `most` repetitions, any number from `least` on if `most` is missing -/
  | repeated (body : Regex) (least : Nat) (most : Option Nat) (lazily : Bool)
  /-- matches what is in parentheses; the group has a number if its match is captured -/
  | group (capture? : Option Nat) (body : Regex)
  deriving DecidableEq, Repr, Inhabited

end EntryStore
