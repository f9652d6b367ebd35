import EntryStore.Text.Utf8

/-!
# Spans of code points

A set of code points as the ascending list of its spans, and the byte sequences that encode
the code points of a span: a span falls into parts, in each of which the bytes of one position
form an unbroken stretch whatever the bytes at the other positions are.
-/

namespace EntryStore.Text

/-- An unbroken stretch of code points. -/
structure CodeSpan where
  first : Nat
  last : Nat
  deriving DecidableEq, Repr

/-- An unbroken stretch of bytes. -/
structure ByteSpan where
  first : UInt8
  last : UInt8
  deriving DecidableEq, Repr

namespace CodeSpan

/-- Adds a span in front of spans that do not start before it. -/
def cons (span : CodeSpan) : List CodeSpan → List CodeSpan
  | [] => [span]
  | next :: rest =>
      if next.first ≤ span.last + 1 then ⟨span.first, max span.last next.last⟩ :: rest
      else span :: next :: rest

/-- The spans of the set that some spans cover, in ascending order. -/
def normalize (spans : List CodeSpan) : List CodeSpan :=
  (spans.mergeSort fun left right => left.first ≤ right.first).foldr cons []

/-- Whether a span holds code points of ASCII alone. -/
def isAscii (span : CodeSpan) : Bool := span.last < 0x80

/-- How many code points a number of low bytes leaves open. -/
def lowBlocks : List Nat := [0x40, 0x1000, 0x40000]

/-- The last code points whose encodings take one, two and three bytes. -/
def encodingEnds : List Nat := [0x7F, 0x7FF, 0xFFFF]

/-- Where a span has to be cut so that it falls into parts whose bytes form stretches: the last
code point of the first part. -/
def cut? (span : CodeSpan) : Option Nat :=
  match encodingEnds.find? fun code => span.first ≤ code && code < span.last with
  | some code => some code
  | none =>
      if span.isAscii then none
      else
        lowBlocks.findSome? fun block =>
          if span.first / block = span.last / block then none
          else if span.first % block ≠ 0 then some (span.first - span.first % block + block - 1)
          else if span.last % block ≠ block - 1 then some (span.last - span.last % block - 1)
          else none

/-- The bytes of a code point. -/
def encode (code : Nat) : List UInt8 := String.utf8EncodeChar (Char.ofNat code)

/-- The parts of a span, each as the stretches of its bytes. -/
def byteRuns (span : CodeSpan) : List (List ByteSpan) :=
  match span.cut? with
  | none => [List.zipWith ByteSpan.mk (encode span.first) (encode span.last)]
  | some code =>
      if _inside : span.first ≤ code ∧ code < span.last then
        byteRuns ⟨span.first, code⟩ ++ byteRuns ⟨code + 1, span.last⟩
      else []
termination_by span.last - span.first
decreasing_by all_goals omega

end CodeSpan

end EntryStore.Text
