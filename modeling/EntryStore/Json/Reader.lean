import EntryStore.Json.Number
import EntryStore.Json.Strings

/-!
# Reading JSON

Readers for the brackets that enclose other values, for whole documents, and for values
that are ignored.  Lists and objects may be nested up to a depth, counted down while
reading; ignored values may be nested to any depth.
-/

namespace EntryStore.Json

/-- How deep lists and objects may be nested, plus one. -/
def depthLimit : Nat := 128

/-- Blanks between the tokens of JSON. -/
def isSpace (c : Char) : Bool := c == ' ' || c == '\n' || c == '\t' || c == '\r'

/-- The rest after the blanks in front. -/
def skipSpace (text : List Char) : List Char := text.dropWhile isSpace

/-- Reads the remaining letters of a word such as `null`. -/
def word (letters : List Char) (text : List Char) : Except Fault (List Char) :=
  match letters, text with
  | [], rest => .ok rest
  | _ :: _, [] => faultBefore .endOfValue []
  | letter :: letters, c :: rest =>
      if c = letter then word letters rest else faultAt .expectedWord (c :: rest)

/-- Whether another element follows in a list, and the text it starts at. -/
def nextElement (first : Bool) (text : List Char) : Except Fault (Bool × List Char) :=
  match skipSpace text with
  | [] => faultAt .endOfList []
  | ']' :: rest => .ok (false, ']' :: rest)
  | ',' :: rest =>
      if first then .ok (true, ',' :: rest)
      else
        match skipSpace rest with
        | [] => faultAt .endOfValue []
        | ']' :: rest => faultAt .trailingComma (']' :: rest)
        | rest => .ok (true, rest)
  | rest => if first then .ok (true, rest) else faultAt .expectedListEnd rest

/-- Expects the quote that opens a key. -/
def keyStart (text : List Char) : Except Fault (Bool × List Char) :=
  match text with
  | '"' :: rest => .ok (true, '"' :: rest)
  | rest => faultAt .keyNotString rest

/-- Whether another key follows in an object, and the text it starts at. -/
def nextKey (first : Bool) (text : List Char) : Except Fault (Bool × List Char) :=
  match skipSpace text with
  | [] => faultAt .endOfObject []
  | '\x7d' :: rest => .ok (false, '\x7d' :: rest)
  | ',' :: rest =>
      if first then faultAt .keyNotString (',' :: rest)
      else
        match skipSpace rest with
        | [] => faultAt .endOfValue []
        | '\x7d' :: rest => faultAt .trailingComma ('\x7d' :: rest)
        | rest => keyStart rest
  | rest => if first then keyStart rest else faultAt .expectedObjectEnd rest

/-- Expects the closing bracket of a list. -/
def closeList (text : List Char) : Except Fault (List Char) :=
  match skipSpace text with
  | [] => faultAt .endOfList []
  | ']' :: rest => .ok rest
  | ',' :: rest =>
      match skipSpace rest with
      | ']' :: rest => faultAt .trailingComma (']' :: rest)
      | rest => faultAt .trailingCharacters rest
  | rest => faultAt .trailingCharacters rest

/-- Expects the closing brace of an object. -/
def closeObject (text : List Char) : Except Fault (List Char) :=
  match skipSpace text with
  | [] => faultAt .endOfObject []
  | '\x7d' :: rest => .ok rest
  | ',' :: rest => faultAt .trailingComma (',' :: rest)
  | rest => faultAt .trailingCharacters rest

/-- Expects the colon after a key. -/
def colon (text : List Char) : Except Fault (List Char) :=
  match skipSpace text with
  | [] => faultAt .endOfObject []
  | ':' :: rest => .ok rest
  | rest => faultAt .expectedColon rest

/-- Reads what a pair of brackets encloses and then its closing bracket.  A fault that has no
place yet lies where the attempt to close ends. -/
def enclosed {α : Type} (close : List Char → Except Fault (List Char)) (content : Reader α) :
    Reader α := fun text =>
  match content text with
  | .ok (value, rest) =>
      match close rest with
      | .ok rest => .ok (value, rest)
      | .error fault => .error fault
  | .error fault =>
      match close fault.rest with
      | .ok rest => .error (fault.settle rest)
      | .error closing => .error (fault.settle closing.rest)

/-- The elements of a list, after its opening bracket.  The fuel bounds their number. -/
def elements {α : Type} (element : Reader α) : (fuel : Nat) → (first : Bool) → Reader (List α)
  | 0, _, text => faultBefore .endOfList text
  | fuel + 1, first, text => do
      match ← nextElement first text with
      | (false, rest) => return ([], rest)
      | (true, rest) =>
          let (value, rest) ← element rest
          let (values, rest) ← elements element fuel false rest
          return (value :: values, rest)

/-- The entries of an object, after its opening brace: each key is read by `key`, its value
after the colon by a reader that may depend on the key.  The fuel bounds their number. -/
def entries {κ α : Type} (key : Reader κ) (value : κ → Reader α) :
    (fuel : Nat) → (first : Bool) → Reader (List (κ × α))
  | 0, _, text => faultBefore .endOfObject text
  | fuel + 1, first, text => do
      match ← nextKey first text with
      | (false, rest) => return ([], rest)
      | (true, rest) =>
          let (name, rest) ← key rest
          let (content, rest) ← value name (← colon rest)
          let (others, rest) ← entries key value fuel false rest
          return ((name, content) :: others, rest)

/-- Reads a string as it stands in front, quote included. -/
def keyText (text : List Char) : Except Fault (String × List Char) := stringBody (text.drop 1)

/-- Reads a document whose lists and objects are nested less than `depth` deep. -/
def document : (depth : Nat) → Reader Json
  | 0, text => faultAt .tooDeep text
  | depth + 1, text =>
      match skipSpace text with
      | [] => faultAt .endOfValue []
      | 'n' :: rest => do return (.null, ← word ['u', 'l', 'l'] rest)
      | 't' :: rest => do return (.bool true, ← word ['r', 'u', 'e'] rest)
      | 'f' :: rest => do return (.bool false, ← word ['a', 'l', 's', 'e'] rest)
      | '"' :: rest => do
          let (content, rest) ← stringBody rest
          return (.string content, rest)
      | '[' :: rest =>
          if depth = 0 then faultAt .tooDeep ('[' :: rest)
          else do
            let (values, rest) ←
              enclosed closeList (elements (document depth) (rest.length + 1) true) rest
            return (.array values, rest)
      | '\x7b' :: rest =>
          if depth = 0 then faultAt .tooDeep ('\x7b' :: rest)
          else do
            let (bindings, rest) ←
              enclosed closeObject
                (entries keyText (fun _ => document depth) (rest.length + 1) true) rest
            return (ofEntries bindings, rest)
      | c :: rest =>
          if startsNumber c then do
            let (numeral, rest) ← number (c :: rest)
            return (numeral.toJson, rest)
          else faultAt .expectedValue (c :: rest)

/-- Skips an exponent of an ignored number, after its mark. -/
def skipExponent (text : List Char) : Except Fault (List Char) :=
  match (exponentSign text).2 with
  | [] => faultBefore .invalidNumber []
  | c :: rest =>
      if (digit? c).isSome then .ok (dropDigits rest) else faultAt .invalidNumber (c :: rest)

/-- Skips the exponent of an ignored number, if it has one. -/
def skipExponentOrEnd (text : List Char) : Except Fault (List Char) :=
  match text with
  | 'e' :: rest | 'E' :: rest => skipExponent rest
  | rest => .ok rest

/-- Skips what follows the integral part of an ignored number. -/
def skipFraction (text : List Char) : Except Fault (List Char) :=
  match text with
  | '.' :: rest =>
      match rest with
      | c :: _ =>
          if (digit? c).isSome then skipExponentOrEnd (dropDigits rest)
          else faultAt .invalidNumber rest
      | [] => faultAt .invalidNumber []
  | rest => skipExponentOrEnd rest

/-- Skips the digits of an ignored number, whatever its size. -/
def skipDigits (text : List Char) : Except Fault (List Char) :=
  match text with
  | [] => faultBefore .invalidNumber []
  | '0' :: rest =>
      match rest with
      | c :: _ => if (digit? c).isSome then faultAt .invalidNumber rest else skipFraction rest
      | [] => .ok []
  | c :: rest =>
      if (digit? c).isSome then skipFraction (dropDigits rest)
      else faultAt .invalidNumber (c :: rest)

mutual

/-- Skips a value of any kind, nested to any depth.  The fuel bounds the brackets and
separators. -/
def skipValue : (fuel : Nat) → List Char → Except Fault (List Char)
  | 0, text => faultBefore .endOfValue text
  | fuel + 1, text =>
      match skipSpace text with
      | [] => faultAt .endOfValue []
      | 'n' :: rest => word ['u', 'l', 'l'] rest
      | 't' :: rest => word ['r', 'u', 'e'] rest
      | 'f' :: rest => word ['a', 'l', 's', 'e'] rest
      | '-' :: rest => skipDigits rest
      | '"' :: rest => skipString (rest.length + 1) rest
      | '[' :: rest =>
          match skipSpace rest with
          | [] => faultAt .endOfList []
          | ']' :: rest => .ok rest
          | rest => skipElements fuel rest
      | '\x7b' :: rest =>
          match skipSpace rest with
          | [] => faultAt .endOfObject []
          | '\x7d' :: rest => .ok rest
          | rest => skipEntries fuel rest
      | c :: rest =>
          if (digit? c).isSome then skipDigits (c :: rest) else faultAt .expectedValue (c :: rest)

/-- Skips the elements of a list from one element on, and its closing bracket. -/
def skipElements : (fuel : Nat) → List Char → Except Fault (List Char)
  | 0, text => faultBefore .endOfList text
  | fuel + 1, text => do
      match skipSpace (← skipValue fuel text) with
      | [] => faultAt .endOfList []
      | ']' :: rest => .ok rest
      | ',' :: rest => skipElements fuel rest
      | rest => faultAt .expectedListEnd rest

/-- Skips the entries of an object from one key on, and its closing brace. -/
def skipEntries : (fuel : Nat) → List Char → Except Fault (List Char)
  | 0, text => faultBefore .endOfObject text
  | fuel + 1, text =>
      match skipSpace text with
      | [] => faultAt .endOfObject []
      | '"' :: rest => do
          let rest ← colon (← skipString (rest.length + 1) rest)
          match skipSpace (← skipValue fuel rest) with
          | [] => faultAt .endOfObject []
          | '\x7d' :: rest => .ok rest
          | ',' :: rest => skipEntries fuel rest
          | rest => faultAt .expectedObjectEnd rest
      | rest => faultAt .keyNotString rest

end

/-- Reads over a value that is ignored. -/
def ignored (text : List Char) : Except Fault (Unit × List Char) := do
  return ((), ← skipValue (2 * text.length + 2) text)

/-- Reads a text that holds one value and blanks around it. -/
def readAll {α : Type} (reader : Reader α) (text : String) : Except Fault α := do
  let (value, rest) ← reader text.toList
  match skipSpace rest with
  | [] => return value
  | rest => faultAt .trailingCharacters rest

/-- Reads a document. -/
def parse (text : String) : Except Fault Json := readAll (document depthLimit) text

end EntryStore.Json
