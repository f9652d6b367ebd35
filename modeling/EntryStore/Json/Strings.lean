import EntryStore.Json.Fault
import EntryStore.Text.Hex

/-!
# Reading JSON strings

A string is read up to its closing quote.  Escapes of surrogates have to come in pairs.  A
string in a part of the text that is ignored is only skipped: its escapes have to be well
formed, but surrogates need not be paired.
-/

namespace EntryStore.Json

/-- The value of four hexadecimal digits. -/
def hexQuad? (a b c d : Char) : Option Nat := do
  let high := 16 * (← Text.hexDigit? a) + (← Text.hexDigit? b)
  let low := 16 * (← Text.hexDigit? c) + (← Text.hexDigit? d)
  return 256 * high + low

/-- Reads the four digits of a `\u` escape.  Four bytes are read before they are looked at, so
a wrong digit is reported behind them. -/
def hexQuad (text : List Char) : Except Fault (Nat × List Char) :=
  if Text.byteLength text < 4 then faultBefore .endOfString []
  else
    match text with
    | a :: b :: c :: d :: rest =>
        match hexQuad? a b c d with
        | some value => .ok (value, rest)
        | none => .error ⟨.invalidEscape, .reached text 4⟩
    | _ => .error ⟨.invalidEscape, .reached text 4⟩

/-- The character of an escape that is a single letter or sign. -/
def shortEscape? (c : Char) : Option Char :=
  match c with
  | '"' => some '"'
  | '\\' => some '\\'
  | '/' => some '/'
  | 'b' => some (Char.ofNat 8)
  | 'f' => some (Char.ofNat 12)
  | 'n' => some '\n'
  | 'r' => some '\r'
  | 't' => some '\t'
  | _ => none

/-- The first code unit of a pair. -/
def isLeading (unit : Nat) : Bool := 0xD800 ≤ unit && unit ≤ 0xDBFF

/-- The second code unit of a pair. -/
def isTrailing (unit : Nat) : Bool := 0xDC00 ≤ unit && unit ≤ 0xDFFF

/-- Expects one particular character between the escapes of a pair. -/
def pairMark (mark : Char) (text : List Char) : Except Fault (List Char) :=
  match text with
  | [] => faultBefore .endOfString []
  | c :: rest => if c = mark then .ok rest else faultAt .endOfSurrogatePair (c :: rest)

/-- Reads the character of a `\u` escape, after the `u`. -/
def unicodeEscape (text : List Char) : Except Fault (Char × List Char) := do
  let (unit, rest) ← hexQuad text
  if isTrailing unit then faultBefore .unpairedSurrogate rest
  else if isLeading unit then
    let rest ← pairMark 'u' (← pairMark '\\' rest)
    let (second, rest) ← hexQuad rest
    if isTrailing second then
      return (Char.ofNat ((unit - 0xD800) * 0x400 + (second - 0xDC00) + 0x10000), rest)
    else faultBefore .unpairedSurrogate rest
  else return (Char.ofNat unit, rest)

/-- Reads the character of an escape, after the backslash. -/
def escape (text : List Char) : Except Fault (Char × List Char) :=
  match text with
  | [] => faultBefore .endOfString []
  | 'u' :: rest => unicodeEscape rest
  | c :: rest =>
      match shortEscape? c with
      | some plain => .ok (plain, rest)
      | none => faultAt .invalidEscape (c :: rest)

/-- Reads the characters of a string up to its closing quote.  The fuel bounds their number. -/
def stringTail : (fuel : Nat) → Reader (List Char)
  | 0, rest => faultBefore .endOfString rest
  | _ + 1, [] => faultBefore .endOfString []
  | _ + 1, '"' :: rest => .ok ([], rest)
  | fuel + 1, '\\' :: rest => do
      let (c, rest) ← escape rest
      let (tail, rest) ← stringTail fuel rest
      return (c :: tail, rest)
  | fuel + 1, c :: rest =>
      if c.toNat < 32 then faultAt .controlCharacter (c :: rest)
      else do
        let (tail, rest) ← stringTail fuel rest
        return (c :: tail, rest)

/-- Reads a string, after its opening quote. -/
def stringBody (text : List Char) : Except Fault (String × List Char) := do
  let (content, rest) ← stringTail (text.length + 1) text
  return (String.ofList content, rest)

/-- Skips the escape of an ignored string, after the backslash. -/
def skipEscape (text : List Char) : Except Fault (List Char) :=
  match text with
  | [] => faultBefore .endOfString []
  | 'u' :: rest => return (← hexQuad rest).2
  | c :: rest =>
      if (shortEscape? c).isSome then .ok rest else faultAt .invalidEscape (c :: rest)

/-- Skips an ignored string, after its opening quote. -/
def skipString : (fuel : Nat) → List Char → Except Fault (List Char)
  | 0, rest => faultBefore .endOfString rest
  | _ + 1, [] => faultBefore .endOfString []
  | _ + 1, '"' :: rest => .ok rest
  | fuel + 1, '\\' :: rest => do skipString fuel (← skipEscape rest)
  | fuel + 1, c :: rest =>
      if c.toNat < 32 then faultBefore .controlCharacter (c :: rest) else skipString fuel rest

end EntryStore.Json
