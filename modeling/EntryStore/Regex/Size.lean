import EntryStore.Regex.LiteralTree
import EntryStore.Regex.Outline

/-!
# The size of a regular expression

An expression is prepared for matching as two automata, one that reads forwards and one that reads
backwards.  Repetitions are written out.  An expression is refused if either automaton takes too
many bytes.
-/

namespace EntryStore

open Text (CodeSpan)

namespace Outline

/-- The bytes of the literal that an outline is. -/
def literal? : Outline → Option (List UInt8)
  | .literal chars => some (chars.flatMap String.utf8EncodeChar)
  | _ => none

/-- Makes the states of a set. -/
def buildSet (backward : Bool) (spans : List CodeSpan) (growth : Growth) : Option Growth := do
  if spans.all CodeSpan.isAscii then (← growth.addState).addTable spans.length
  else
    let runs := spans.flatMap CodeSpan.byteRuns
    if backward then growth.addSetBackward runs else growth.addSetForward runs

/-- Makes the states of a repetition from those of its body. -/
def buildRepetition (step : Growth → Option Growth) (mayBeEmpty : Bool) (least : Nat)
    (most : Option Nat) (growth : Growth) : Option Growth :=
  match most with
  | none =>
      if least = 0 then
        if mayBeEmpty then do
          (← (← (← step growth).addBranch 2).addBranch 2).addState
        else do step (← growth.addBranch 2)
      else do (← growth.repeated step least).addBranch 2
  | some most =>
      let option := fun (growth : Growth) => do step (← growth.addBranch 2)
      if least = 0 ∧ most = 1 then do (← option growth).addState
      else do
        let growth ← if least = 0 then growth.addState else growth.repeated step least
        if most = least then return growth
        else (← growth.addState).repeated option (most - least)

mutual

/-- Makes the states of an outline, in the order of the given direction. -/
def build (backward : Bool) : Outline → Growth → Option Growth
  | .empty, growth | .check _, growth => growth.addState
  | .literal chars, growth => growth.repeated Growth.addState (Text.byteLength chars)
  | .set spans, growth => buildSet backward spans growth
  | .repeated body least most _, growth =>
      buildRepetition (body.build backward) (body.shortest?.all (· == 0)) least most growth
  | .capture _ body, growth =>
      if backward then body.build backward growth
      else do (← body.build backward (← growth.addState)).addState
  | .sequence parts, growth => buildParts backward parts growth
  | .choice options, growth =>
      match options.mapM literal? with
      | some literals =>
          (LiteralTree.ofLiterals
            (if backward then literals.map List.reverse else literals)).build growth
      | none => buildOptions backward options.length 0 options growth

/-- Makes the states of parts in sequence. -/
def buildParts (backward : Bool) : List Outline → Growth → Option Growth
  | [], growth => some growth
  | part :: parts, growth =>
      if backward then do part.build backward (← buildParts backward parts growth)
      else do buildParts backward parts (← part.build backward growth)

/-- Makes the states of options, of which `built` have been made.  The states where they begin and
end follow those of the second one. -/
def buildOptions (backward : Bool) (count built : Nat) : List Outline → Growth → Option Growth
  | [], growth => some growth
  | option :: options, growth => do
      let growth ← option.build backward growth
      let growth ← if built = 1 then (← growth.addBranch count).addState else some growth
      buildOptions backward count (built + 1) options growth

end

/-- Makes the automaton of an outline.  Unless every match begins where the automaton begins to
read, a loop over any bytes stands in front. -/
def automaton? (backward : Bool) (outline : Outline) : Option Growth := do
  let anchored := if backward then outline.endsText else outline.startsText
  let growth ←
    if anchored then Growth.zero.addState
    else (← (← Growth.zero.addBranch 2).addState).addTable 1
  (← Outline.build backward (.capture 0 outline) growth).addState

/-- The number of literals from which on a choice among them is matched by a search for them, which
has no limit of size. -/
def manyLiterals : Nat := 3000

/-- Whether an outline is not too large to be matched. -/
def fits (outline : Outline) : Bool :=
  let isManyLiterals :=
    match outline with
    | .choice options => manyLiterals ≤ options.length && (options.mapM literal?).isSome
    | _ => false
  isManyLiterals || (outline.automaton? false).isSome && (outline.automaton? true).isSome

end Outline

/-- Whether an expression is not too large to be matched. -/
def Regex.fits (regex : Regex) : Bool := regex.outline.fits

end EntryStore
