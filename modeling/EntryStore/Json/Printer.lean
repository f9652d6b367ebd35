import EntryStore.Json.Basic

/-!
# Writing JSON

`Json.print` writes a document without blanks; `Json.pretty` spreads it over lines indented
by two blanks a level.  Strings escape quotes, backslashes and control characters, and
nothing else.
-/

namespace EntryStore.Json

/-- One character of a string as it is written. -/
def escapeChar (c : Char) : List Char :=
  match c with
  | '"' => ['\\', '"']
  | '\\' => ['\\', '\\']
  | '\n' => ['\\', 'n']
  | '\r' => ['\\', 'r']
  | '\t' => ['\\', 't']
  | _ =>
      if c.toNat = 8 then ['\\', 'b']
      else if c.toNat = 12 then ['\\', 'f']
      else if c.toNat < 32 then
        ['\\', 'u', '0', '0', Nat.digitChar (c.toNat / 16), Nat.digitChar (c.toNat % 16)]
      else [c]

/-- A string between quotes. -/
def stringChars (text : String) : List Char :=
  '"' :: text.toList.flatMap escapeChar ++ ['"']

/-- An integer in decimal notation. -/
def integerChars (n : Int) : List Char :=
  match n with
  | .ofNat magnitude => Nat.toDigits 10 magnitude
  | .negSucc magnitude => '-' :: Nat.toDigits 10 (magnitude + 1)

mutual

/-- The characters of a document, without blanks. -/
def chars : Json → List Char
  | .null => ['n', 'u', 'l', 'l']
  | .bool true => ['t', 'r', 'u', 'e']
  | .bool false => ['f', 'a', 'l', 's', 'e']
  | .integer n => integerChars n
  | .float x => x.toJsonText.toList
  | .string text => stringChars text
  | .array [] => ['[', ']']
  | .array (first :: rest) => '[' :: first.chars ++ elementChars rest
  | .object [] => ['\x7b', '\x7d']
  | .object ((key, value) :: rest) =>
      '\x7b' :: stringChars key ++ ':' :: value.chars ++ entryChars rest

/-- The elements after the first, and the closing bracket. -/
def elementChars : List Json → List Char
  | [] => [']']
  | element :: rest => ',' :: element.chars ++ elementChars rest

/-- The entries after the first, and the closing brace. -/
def entryChars : List (String × Json) → List Char
  | [] => ['\x7d']
  | (key, value) :: rest => ',' :: stringChars key ++ ':' :: value.chars ++ entryChars rest

end

/-- The text of a document, without blanks. -/
def print (json : Json) : String := String.ofList json.chars

/-- A new line at a level of indentation. -/
def newLine (level : Nat) : List Char := '\n' :: List.replicate (2 * level) ' '

mutual

/-- The characters of a document whose opening bracket stands at a level of indentation. -/
def prettyChars (level : Nat) : Json → List Char
  | .array (first :: rest) =>
      '[' :: newLine (level + 1) ++ prettyChars (level + 1) first ++ prettyElements level rest
  | .object ((key, value) :: rest) =>
      '\x7b' :: newLine (level + 1) ++ stringChars key ++ ':' :: ' ' ::
        prettyChars (level + 1) value ++ prettyEntries level rest
  | json => json.chars

/-- The elements after the first, each on a line of its own. -/
def prettyElements (level : Nat) : List Json → List Char
  | [] => newLine level ++ [']']
  | element :: rest =>
      ',' :: newLine (level + 1) ++ prettyChars (level + 1) element ++ prettyElements level rest

/-- The entries after the first, each on a line of its own. -/
def prettyEntries (level : Nat) : List (String × Json) → List Char
  | [] => newLine level ++ ['\x7d']
  | (key, value) :: rest =>
      ',' :: newLine (level + 1) ++ stringChars key ++ ':' :: ' ' ::
        prettyChars (level + 1) value ++ prettyEntries level rest

end

/-- The text of a document over several lines. -/
def pretty (json : Json) : String := String.ofList (prettyChars 0 json)

end EntryStore.Json
