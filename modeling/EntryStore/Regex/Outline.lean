import EntryStore.Regex.Basic
import EntryStore.Regex.Spans

/-!
# Outlines of regular expressions

An outline is what is left of an expression when it is prepared for matching: sequences and
choices are flat, neighbouring characters are one literal, a choice among single characters is
a set, what several options have in common in front is taken out, and a repetition of something
that takes no characters happens once at most.
-/

namespace EntryStore

open Text (CodeSpan)

/-- An outline.  Parts of a sequence are neither empty nor sequences, and options of a choice are
no choices; there are at least two of either. -/
inductive Outline where
  | empty
  | literal (chars : List Char)
  | set (spans : List CodeSpan)
  | check (assertion : Assertion)
  | repeated (body : Outline) (least : Nat) (most : Option Nat) (lazily : Bool)
  | capture (number : Nat) (body : Outline)
  | sequence (parts : List Outline)
  | choice (options : List Outline)
  deriving BEq, Repr, Inhabited

namespace Outline

/-! ## Lengths -/

mutual

/-- The number of bytes of the shortest match; `none` if nothing matches. -/
def shortest? : Outline → Option Nat
  | .empty | .check _ => some 0
  | .literal chars => some (Text.byteLength chars)
  | .set spans => spans.head?.map fun span => (CodeSpan.encode span.first).length
  | .repeated body least _ _ => body.shortest?.map (· * least)
  | .capture _ body => body.shortest?
  | .sequence parts => shortestSum? parts
  | .choice options => shortestMin? options

/-- The shortest match of parts in sequence. -/
def shortestSum? : List Outline → Option Nat
  | [] => some 0
  | part :: parts => do return (← part.shortest?) + (← shortestSum? parts)

/-- The shortest match of several options; `none` if one of them never matches. -/
def shortestMin? : List Outline → Option Nat
  | [] => none
  | [option] => option.shortest?
  | option :: options => do return min (← option.shortest?) (← shortestMin? options)

end

mutual

/-- Whether every match is empty, and there is one. -/
def isWidthless : Outline → Bool
  | .empty | .check _ => true
  | .literal chars => chars.isEmpty
  | .set _ => false
  | .repeated body _ most _ => body.isWidthless && most.isSome
  | .capture _ body => body.isWidthless
  | .sequence parts | .choice parts => areWidthless parts

/-- Whether several outlines match nothing but the empty text. -/
def areWidthless : List Outline → Bool
  | [] => true
  | part :: parts => part.isWidthless && areWidthless parts

end

/-! ## Construction -/

/-- The outline of a set. -/
def ofSpans (spans : List CodeSpan) : Outline :=
  match spans with
  | [span] => if span.first = span.last then .literal [Char.ofNat span.first] else .set [span]
  | spans => .set spans

/-- Puts a part in front of the parts of a sequence. -/
def consPart (part : Outline) (rest : List Outline) : List Outline :=
  match part, rest with
  | .empty, rest => rest
  | .literal chars, .literal others :: rest => .literal (chars ++ others) :: rest
  | part, rest => part :: rest

/-- Puts an outline, which may be a sequence itself, in front of the parts of a sequence. -/
def append (outline : Outline) (rest : List Outline) : List Outline :=
  match outline with
  | .sequence parts => parts.foldr consPart rest
  | part => consPart part rest

/-- The outline of the parts of a sequence. -/
def ofParts : List Outline → Outline
  | [] => .empty
  | [part] => part
  | parts => .sequence parts

/-- The outline of a repetition. -/
def repetition (body : Outline) (least : Nat) (most : Option Nat) (lazily : Bool) : Outline :=
  let (least, most) :=
    if body.isWidthless then (min least 1, some (min (most.getD 1) 1)) else (least, most)
  if most = some 0 then .empty
  else if least = 1 ∧ most = some 1 then body
  else .repeated body least most lazily

/-- The options of an outline. -/
def options : Outline → List Outline
  | .choice options => options
  | option => [option]

/-- The spans of an outline that is a single character. -/
def single? : Outline → Option (List CodeSpan)
  | .literal [c] => some [⟨c.toNat, c.toNat⟩]
  | _ => none

/-- The spans of an outline that is a set. -/
def spans? : Outline → Option (List CodeSpan)
  | .set spans => some spans
  | _ => none

/-- The parts of an outline that is a sequence. -/
def parts? : Outline → Option (List Outline)
  | .sequence parts => some parts
  | _ => none

/-- The set to which options of one kind amount. -/
def union? (kind : Outline → Option (List CodeSpan)) (options : List Outline) : Option Outline :=
  (options.mapM kind).map fun spans => ofSpans (CodeSpan.normalize spans.flatten)

/-- What two lists have in common in front. -/
def commonParts : List Outline → List Outline → List Outline
  | left :: lefts, right :: rights => if left == right then left :: commonParts lefts rights else []
  | _, _ => []

/-- What sequences have in common in front, and what each of them has behind it. -/
def liftParts? (options : List Outline) : Option (List Outline × List Outline) := do
  let sequences ← options.mapM parts?
  let common ← match sequences with
    | [] => none
    | first :: others => some (others.foldl commonParts first)
  if common.isEmpty then none
  else some (common, sequences.map fun parts => ofParts (parts.drop common.length))

/-- The outline of a choice.  The fuel bounds how often a common part is taken out. -/
def ofOptions : (fuel : Nat) → List Outline → Outline
  | 0, given => .choice given
  | fuel + 1, given =>
      match given.flatMap options with
      | [] => .set []
      | [option] => option
      | flat =>
          match union? single? flat <|> union? spans? flat with
          | some united => united
          | none =>
              match liftParts? flat with
              | some (common, others) =>
                  ofParts (common.foldr consPart (append (ofOptions fuel others) []))
              | none => .choice flat

mutual

/-- The number of places in an outline. -/
def extent : Outline → Nat
  | .empty | .literal _ | .set _ | .check _ => 1
  | .repeated body _ _ _ | .capture _ body => body.extent + 1
  | .sequence parts | .choice parts => extents parts + 1

/-- The number of places in several outlines. -/
def extents : List Outline → Nat
  | [] => 0
  | part :: parts => part.extent + extents parts

end

/-- The outline of a choice. -/
def choose (given : List Outline) : Outline := ofOptions (extents given + 1) given

/-! ## Assertions at the ends -/

mutual

/-- Whether every match begins at the start of the text, as far as the outline tells. -/
def startsText : Outline → Bool
  | .check assertion => assertion == .textStart
  | .repeated body least _ _ => 0 < least && body.startsText
  | .capture _ body => body.startsText
  | .sequence parts => firstStartsText parts
  | .choice options => allStartText options
  | _ => false

/-- Whether a sequence begins at the start of the text. -/
def firstStartsText : List Outline → Bool
  | [] => false
  | part :: parts => part.startsText || part.isWidthless && firstStartsText parts

/-- Whether all options begin at the start of the text. -/
def allStartText : List Outline → Bool
  | [] => true
  | option :: options => option.startsText && allStartText options

end

mutual

/-- Whether every match ends at the end of the text, as far as the outline tells. -/
def endsText : Outline → Bool
  | .check assertion => assertion == .textEnd
  | .repeated body least _ _ => 0 < least && body.endsText
  | .capture _ body => body.endsText
  | .sequence parts => lastEndsText parts
  | .choice options => allEndText options
  | _ => false

/-- Whether a sequence ends at the end of the text. -/
def lastEndsText : List Outline → Bool
  | [] => false
  | part :: parts => lastEndsText parts || areWidthless parts && part.endsText

/-- Whether all options end at the end of the text. -/
def allEndText : List Outline → Bool
  | [] => true
  | option :: options => option.endsText && allEndText options

end

end Outline

namespace Regex

/-- Puts an expression in front of the parts of a sequence, or, as one option, in front of the
options of a choice. -/
def outlineBefore (asOption : Bool) (regex : Regex) (rest : List Outline) : List Outline :=
  let place := fun (parts : List Outline → List Outline) =>
    if asOption then .ofParts (parts []) :: rest else parts rest
  match regex with
  | .empty => place id
  | .chars admitted => place (Outline.consPart (.ofSpans admitted.spans))
  | .check assertion => place (Outline.consPart (.check assertion))
  | .seq first second =>
      place fun rest => outlineBefore false first (outlineBefore false second rest)
  | .either left right =>
      let options := fun rest => outlineBefore true left (outlineBefore true right rest)
      if asOption then options rest else Outline.append (.choose (options [])) rest
  | .repeated body least most lazily =>
      place (Outline.append
        (.repetition (.ofParts (outlineBefore false body [])) least most lazily))
  | .group capture? body =>
      let body := Outline.ofParts (outlineBefore false body [])
      place (Outline.append (match capture? with
        | some number => .capture number body
        | none => body))

/-- The outline of an expression. -/
def outline (regex : Regex) : Outline := .ofParts (outlineBefore false regex [])

end Regex

end EntryStore
