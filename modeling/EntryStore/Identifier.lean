import EntryStore.Error

/-!
# Names of tables and columns

Names stand in statements without quotes, so they are restricted: one part, or two parts
with a point between them, each part made of ASCII letters, digits and underscores, at
most 63 long, no keyword and not in the namespace that the database reserves.  A part is
checked in its normal form; `normalize` stands for the function that computes it.
-/

namespace EntryStore.Identifier

/-- Why a name is refused.  `part` is the part in question, in normal form. -/
inductive Fault where
  | empty
  | qualification (name : String)
  | emptyPart
  /-- the normal form of a part that is not empty has no characters -/
  | vanishingPart (part : String)
  | tooLong (part : String)
  | badStart (part : String)
  | badCharacter (part : String) (character : Char)
  | reserved (part : String)
  | keyword (part : String)
  deriving DecidableEq, Repr

/-- The greatest length of a part, in bytes. -/
def maxLength : Nat := 63

/-- The wording of a fault. -/
def Fault.message : Fault → String
  | .empty => "Identifier cannot be empty"
  | .qualification name =>
      "Invalid schema-qualified identifier '" ++ name ++ "': must be in format 'schema.table'"
  | .emptyPart => "Identifier part cannot be empty"
  | .vanishingPart part => "Identifier '" ++ part ++ "' is empty or invalid"
  | .tooLong part =>
      "Identifier '" ++ part ++ "' exceeds maximum length of " ++ toString maxLength
  | .badStart part => "Identifier '" ++ part ++ "' must start with a letter or underscore"
  | .badCharacter part character =>
      "Identifier '" ++ part ++ "' contains invalid character '" ++ character.toString ++ "'"
  | .reserved part => "Identifier '" ++ part ++ "' uses the reserved sqlite_ prefix"
  | .keyword part => "Identifier '" ++ part ++ "' is a reserved SQL keyword"

/-- A refused name is reported as a defect of the mapping. -/
def Fault.toError (fault : Fault) : Error := .validation fault.message

/-- The keywords that are no names, in lower case. -/
def keywords : List String :=
  ["select", "insert", "update", "delete", "drop", "create", "alter",
   "truncate", "grant", "revoke", "exec", "execute", "union", "declare",
   "table", "index", "view", "schema", "database", "user", "role",
   "from", "where", "join", "inner", "outer", "left", "right",
   "on", "using", "and", "or", "not", "in", "exists", "between",
   "like", "is", "null", "true", "false", "case", "when",
   "then", "else", "end", "as", "order", "by", "group", "having",
   "limit", "offset", "distinct", "all", "set", "values", "into",
   "regexp", "glob", "match"]

/-- What names of the database's own begin with, in lower case. -/
def reservedStart : List Char := ['s', 'q', 'l', 'i', 't', 'e', '_']

/-- An ASCII letter or an underscore. -/
def isStart (c : Char) : Bool := c.isAlpha || c == '_'

/-- An ASCII letter, a digit or an underscore. -/
def isRest (c : Char) : Bool := c.isAlphanum || c == '_'

/-- Checks the characters of a part in normal form.  The rules are applied in this order, and
the first one that is broken is reported. -/
def checkNormal (part : String) : Except Fault Unit :=
  if maxLength < part.utf8ByteSize then .error (.tooLong part)
  else
    match part.toList with
    | [] => .error (.vanishingPart part)
    | first :: rest =>
        if !isStart first then .error (.badStart part)
        else
          match (first :: rest).find? fun c => !isRest c with
          | some c => .error (.badCharacter part c)
          | none =>
              let lower := (first :: rest).map Char.toLower
              if reservedStart.isPrefixOf lower then .error (.reserved part)
              else if String.ofList lower ∈ keywords then .error (.keyword part)
              else .ok ()

/-- Checks one part of a name. -/
def checkPart (normalize : String → String) (part : String) : Except Fault Unit :=
  if part.isEmpty then .error .emptyPart else checkNormal (normalize part)

/-- The pieces of a text between its points. -/
def splitAtPoints : List Char → List (List Char)
  | [] => [[]]
  | c :: rest =>
      match c == '.', splitAtPoints rest with
      | true, pieces => [] :: pieces
      | false, piece :: pieces => (c :: piece) :: pieces
      | false, [] => [[c]]

/-- Checks a name. -/
def check (normalize : String → String) (name : String) : Except Fault Unit :=
  if name.isEmpty then .error .empty
  else
    match splitAtPoints name.toList with
    | [_] => checkPart normalize name
    | [schema, table] => do
        checkPart normalize (String.ofList schema)
        checkPart normalize (String.ofList table)
    | _ => .error (.qualification name)

/-- The normal form of a name that passes the check. -/
def accept (normalize : String → String) (name : String) : Except Fault String := do
  check normalize name
  return normalize name

end EntryStore.Identifier
