import EntryStore.Regex.Flags
import EntryStore.Text.Hex

/-!
# Escapes

What a backslash in a pattern stands for: a character, a class of characters, or an
assertion.  Classes by Unicode property (`\p`) are not offered, nor are references to
groups.
-/

namespace EntryStore.Regex

/-- The meaning of an escape or of a single character. -/
inductive Primitive where
  | literal (c : Char)
  | set (set : CharSet)
  | assertion (assertion : Assertion)
  deriving Repr

/-- A code point as a character, unless it is a surrogate or too great. -/
def charOfCode? (code : Nat) : Option Char :=
  if code.isValidChar then some (Char.ofNat code) else none

/-- Reads a given number of hexadecimal digits. -/
def fixedHex (flags : Flags) : (digits : Nat) → (value : Nat) → List Char → Option (Nat × List Char)
  | 0, value, text => some (value, text)
  | digits + 1, value, text =>
      match text with
      | [] => none
      | c :: rest => do
          fixedHex flags digits (16 * value + (← Text.hexDigit? c)) (flags.skip rest)

/-- Reads hexadecimal digits up to a closing brace; there has to be one.  The fuel bounds their
number. -/
def bracedHex (flags : Flags) :
    (fuel : Nat) → (value? : Option Nat) → List Char → Option (Nat × List Char)
  | 0, _, _ => none
  | _ + 1, _, [] => none
  | fuel + 1, value?, c :: rest =>
      if c = '\x7d' then
        match value? with
        | some value => some (value, flags.skip rest)
        | none => none
      else do
        bracedHex flags fuel (some (16 * value?.getD 0 + (← Text.hexDigit? c))) (flags.skip rest)

/-- Whether a code point may be written with a number of digits.  Without `u`, two digits stand
for a byte, and a byte beyond ASCII is no character. -/
def admitsCode (flags : Flags) (digits code : Nat) : Bool :=
  flags.unicode || digits != 2 || code < 0x80

/-- Reads the code point of a hexadecimal escape after its letter, which asks for `digits`
digits unless there are braces. -/
def hexEscape (flags : Flags) (digits : Nat) (text : List Char) :
    Option (Primitive × List Char) := do
  match flags.skip text with
  | '\x7b' :: rest =>
      let (code, rest) ← bracedHex flags (rest.length + 1) none (flags.skip rest)
      return (.literal (← charOfCode? code), rest)
  | rest =>
      let (code, rest) ← fixedHex flags digits 0 rest
      if admitsCode flags digits code then return (.literal (← charOfCode? code), rest) else none

/-- The names of word edges between braces. -/
def edgeNames : List (String × WordEdge) :=
  [("start", .start), ("end", .finish), ("start-half", .startHalf), ("end-half", .finishHalf)]

/-- Characters of the name of a word edge. -/
def isEdgeNameChar (c : Char) : Bool := c.isAlpha || c == '-'

/-- Reads the name of a word edge up to its closing brace.  The fuel bounds its length. -/
def edgeName (flags : Flags) : (fuel : Nat) → (name : List Char) → List Char →
    Option (WordEdge × List Char)
  | 0, _, _ => none
  | _ + 1, _, [] => none
  | fuel + 1, name, c :: rest =>
      if isEdgeNameChar c then edgeName flags fuel (c :: name) (flags.skip rest)
      else if c = '\x7d' then do
        return (← edgeNames.lookup (String.ofList name.reverse), rest)
      else none

/-- Reads what follows `\b`: a named edge in braces, or else a word boundary.  Braces that do
not begin like a name belong to a repetition. -/
def boundaryEscape (flags : Flags) (text : List Char) : Option (Primitive × List Char) :=
  let plain := some (Primitive.assertion (flags.edge .boundary), text)
  match text with
  | '\x7b' :: rest =>
      match flags.skip rest with
      | [] => none
      | c :: name =>
          if isEdgeNameChar c then do
            let (edge, rest) ← edgeName flags (name.length + 2) [] (c :: name)
            return (.assertion (flags.edge edge), rest)
          else plain
  | _ => plain

/-- Characters that may stand behind a backslash for themselves: ASCII that is neither letter
nor digit nor angle bracket. -/
def isEscapable (c : Char) : Bool :=
  c.toNat < 0x80 && !c.isAlphanum && c != '<' && c != '>'

/-- Reads an escape, after its backslash. -/
def escapePrimitive (flags : Flags) (text : List Char) : Option (Primitive × List Char) :=
  match text with
  | [] => none
  | c :: rest =>
      if isEscapable c then some (.literal c, rest)
      else
        match flags.class? c with
        | some set => some (.set set, rest)
        | none =>
            match c with
            | 'x' => hexEscape flags 2 rest
            | 'u' => hexEscape flags 4 rest
            | 'U' => hexEscape flags 8 rest
            | 'a' => some (.literal '\x07', rest)
            | 'f' => some (.literal '\x0c', rest)
            | 't' => some (.literal '\t', rest)
            | 'n' => some (.literal '\n', rest)
            | 'r' => some (.literal '\r', rest)
            | 'v' => some (.literal '\x0b', rest)
            | 'A' => some (.assertion .textStart, rest)
            | 'z' => some (.assertion .textEnd, rest)
            | 'b' => boundaryEscape flags rest
            | 'B' => some (.assertion (flags.edge .noBoundary), rest)
            | '<' => some (.assertion (flags.edge .start), rest)
            | '>' => some (.assertion (flags.edge .finish), rest)
            | _ => none

end EntryStore.Regex
