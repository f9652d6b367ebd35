import EntryStore.Regex.CharSet
import EntryStore.Text.Span

/-!
# The spans of a set of characters

A set is cut where its members can begin or end; between two cuts, one character tells of all.
Surrogates are no characters and belong to no set.
-/

namespace EntryStore.CharSet

open Text (CodeSpan)

/-- Whether the character of a code point is a member. -/
def holds (set : CharSet) (code : Nat) : Bool := set.contains (Char.ofNat code)

/-- The code points that differ in case only from a code point for which a condition holds;
those that have a single case are left out. -/
def relatives (condition : Nat → Bool) : List Nat :=
  let representatives := Text.foldPairs.filterMap fun (code, representative) =>
    if condition code || condition representative then some representative else none
  Text.foldPairs.flatMap fun (code, representative) =>
    if representatives.contains representative then [code, representative] else []

/-- The ASCII letters. -/
def asciiLetters : List Nat := List.range' 0x41 26 ++ List.range' 0x61 26

/-- Cuts before and after single code points. -/
def around (codes : List Nat) : List Nat := codes.flatMap fun code => [code, code + 1]

/-- Code points at which members, or others, can begin. -/
def cuts : CharSet → List Nat
  | .empty => []
  | .range low high => [low.toNat, high.toNat + 1]
  | .digit => Text.digitCodes.boundaries.toList
  | .word => Text.wordCodes.boundaries.toList
  | .space => Text.blankCodes.boundaries.toList
  | .compl set => set.cuts
  | .union left right | .inter left right | .diff left right | .symmDiff left right =>
      left.cuts ++ right.cuts
  | .folded set => set.cuts ++ around (relatives set.holds)
  | .foldedAscii set => set.cuts ++ around asciiLetters

/-- The first code points of all characters, of the surrogates and of what follows them, and the
first number that is no code point. -/
def outerCuts : List Nat := [0, 0xD800, 0xE000, 0x110000]

/-- The members between cuts that ascend. -/
def membersBetween (set : CharSet) : List Nat → List CodeSpan
  | first :: next :: rest =>
      let members := membersBetween set (next :: rest)
      if first < next && first.isValidChar && set.holds first then
        CodeSpan.cons ⟨first, next - 1⟩ members
      else members
  | _ => []

/-- Puts a cut into ascending ones. -/
def insertCut (cut : Nat) : List Nat → List Nat
  | [] => [cut]
  | next :: rest => if cut ≤ next then cut :: next :: rest else next :: insertCut cut rest

/-- The spans of a set, in ascending order. -/
def spans (set : CharSet) : List CodeSpan :=
  set.membersBetween ((outerCuts ++ set.cuts).foldr insertCut [])

end EntryStore.CharSet
