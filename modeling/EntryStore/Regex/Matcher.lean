import EntryStore.Regex.Basic

/-!
# Matching

A text with `n` characters has `n + 1` positions, before, between and after them.  A set of
positions is a natural number whose bit `i` tells whether position `i` is in it.  A regular
expression, specialised to a text, sends a set of positions to the set of those at which a
match that starts in it can end.  This takes time linear in the expression for each
position, however many ways there are to match.
-/

namespace EntryStore

namespace Regex

/-- The positions in front of the characters of a text that satisfy a condition. -/
def charMask (condition : Char → Bool) : List Char → Nat
  | [] => 0
  | c :: rest => 2 * charMask condition rest + (if condition c then 1 else 0)

/-- The positions of a text at which an assertion holds; `before` is the character in front of
the text. -/
def gapMask (assertion : Assertion) (before : Option Char) : List Char → Nat
  | [] => if assertion.holds before none then 1 else 0
  | c :: rest =>
      2 * gapMask assertion (some c) rest + (if assertion.holds before (some c) then 1 else 0)

/-- All positions of a text. -/
def allPositions (text : List Char) : Nat := Nat.pow 2 (text.length + 1) - 1

/-- A regular expression specialised to a text. -/
inductive Plan where
  | stay
  /-- moves by one from the given positions -/
  | advance (mask : Nat)
  /-- stays at the given positions -/
  | keep (mask : Nat)
  | seq (first second : Plan)
  | either (left right : Plan)
  /-- between `least` and `least + more` repetitions -/
  | repeated (body : Plan) (least more : Nat)
  deriving Repr

/-- Specialises a regular expression to a text.  More repetitions than the text has positions
lead nowhere new. -/
def plan (text : List Char) : Regex → Plan
  | .empty => .stay
  | .chars set => .advance (charMask set.contains text)
  | .check assertion => .keep (gapMask assertion none text)
  | .seq first second => .seq (plan text first) (plan text second)
  | .either left right => .either (plan text left) (plan text right)
  | .repeated body least most _ =>
      .repeated (plan text body) least
        (match most with
          | some most => most - least
          | none => text.length + 1)
  | .group _ body => plan text body

/-- Applies a function up to `count` times, as long as that changes the set. -/
def iterate (move : Nat → Nat) : (count : Nat) → Nat → Nat
  | 0, positions => positions
  | count + 1, positions =>
      let next := move positions
      if next = positions then positions else iterate move count next

namespace Plan

/-- The positions at which a match that starts in a set of positions can end. -/
def run : Plan → Nat → Nat
  | .stay, positions => positions
  | .advance mask, positions => (positions &&& mask) <<< 1
  | .keep mask, positions => positions &&& mask
  | .seq first second, positions => run second (run first positions)
  | .either left right, positions => run left positions ||| run right positions
  | .repeated body least more, positions =>
      iterate (fun reached => reached ||| run body reached) more
        (iterate (run body) least positions)

end Plan

/-- Whether some part of a text matches. -/
def isMatch (regex : Regex) (text : String) : Bool :=
  (regex.plan text.toList).run (allPositions text.toList) != 0

end Regex

end EntryStore
