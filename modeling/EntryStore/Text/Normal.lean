import EntryStore.Text.Composition

/-!
# Compatibility normal form

`Text.normalize` brings a text into normalization form KC: every character is decomposed,
marks are put into canonical order, and bases are composed with the marks that follow.
Texts that differ only in how they are encoded, or in compatibility variants such as
full-width letters, have the same normal form.  ASCII text is its own normal form.
-/

namespace EntryStore.Text

/-- Inserts a mark into a run of marks that is ordered by class, after those of its class. -/
def insertMark (mark : Char) : List Char → List Char
  | [] => [mark]
  | other :: rest =>
      if combiningClass mark < combiningClass other then mark :: other :: rest
      else other :: insertMark mark rest

/-- Puts each run of marks into canonical order: ascending classes, equal classes in their
order of arrival.  `marks` is the ordered run collected so far. -/
def orderMarks (marks : List Char) : List Char → List Char
  | [] => marks
  | c :: rest =>
      if combiningClass c = 0 then marks ++ c :: orderMarks [] rest
      else orderMarks (insertMark c marks) rest

/-- The state of composition: the base that may still melt with what follows, and the marks
after it that did not, latest first. -/
structure Composing where
  base : Option Char
  marks : List Char

namespace Composing

/-- What stands written so far of a state. -/
def text (state : Composing) : List Char := state.base.toList ++ state.marks.reverse

/-- Whether the next character is kept from the base by a mark between them: one that is no
mark itself, or has the same or a higher class. -/
def blocked (state : Composing) (c : Char) : Bool :=
  match state.marks with
  | [] => false
  | last :: _ => combiningClass last == 0 || combiningClass c ≤ combiningClass last

end Composing

/-- Composes bases with following characters, left to right. -/
def compose (state : Composing) : List Char → List Char
  | [] => state.text
  | c :: rest =>
      match state.base with
      | none =>
          if combiningClass c = 0 then state.text ++ compose ⟨some c, []⟩ rest
          else compose ⟨none, c :: state.marks⟩ rest
      | some base =>
          let composite? := if state.blocked c then none else composePair? base c
          match composite? with
          | some composite => compose ⟨some composite, state.marks⟩ rest
          | none =>
              if combiningClass c = 0 then state.text ++ compose ⟨some c, []⟩ rest
              else compose ⟨some base, c :: state.marks⟩ rest

/-- Normalization form KC, of which ASCII text is an instance. -/
def normalize (text : String) : String :=
  if text.toList.all (·.toNat < 0x80) then text
  else String.ofList (compose ⟨none, []⟩ (orderMarks [] (text.toList.flatMap decompose)))

end EntryStore.Text
