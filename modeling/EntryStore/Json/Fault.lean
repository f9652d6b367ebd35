import EntryStore.Json.Printer
import EntryStore.Text.Quoted
import EntryStore.Text.Utf8

/-!
# Faults in JSON text

A fault names what is wrong and where.  The place is counted in lines and in the bytes of
the last line, up to and including the bytes that the fault points at.
-/

namespace EntryStore.Json

/-- The kind of value found where another was expected. -/
inductive Found where
  | null
  | bool (value : Bool)
  | integer (value : Int)
  | float (value : Double)
  | string (text : String)
  | sequence
  | map
  deriving Repr

/-- The wording for a value that was found. -/
def Found.message : Found → String
  | .null => "null"
  | .bool value => "boolean `" ++ (if value then "true" else "false") ++ "`"
  | .integer value => "integer `" ++ String.ofList (integerChars value) ++ "`"
  | .float value => "floating point `" ++ value.toJsonText ++ "`"
  | .string text => "string " ++ Text.quoted text
  | .sequence => "sequence"
  | .map => "map"

/-- What is wrong with a JSON text, in itself or for the type it is read as. -/
inductive Cause where
  | endOfValue
  | endOfList
  | endOfObject
  | endOfString
  | expectedValue
  | expectedWord
  | expectedColon
  | expectedListEnd
  | expectedObjectEnd
  | keyNotString
  | trailingComma
  | trailingCharacters
  | tooDeep
  | invalidNumber
  | numberOutOfRange
  | invalidEscape
  | controlCharacter
  | unpairedSurrogate
  | endOfSurrogatePair
  | invalidType (found : Found) (expected : String)
  | invalidValue (found : Found) (expected : String)
  | invalidLength (length : Nat) (expected : String)
  | missingField (name : String)
  | duplicateField (name : String)
  | unknownVariant (name : String) (expected : List String)
  /-- well-typed, but refused by a rule of the domain, which gives the wording -/
  | refused (reason : String)
  deriving Repr

/-- The wording of a cause. -/
def Cause.message : Cause → String
  | .endOfValue => "EOF while parsing a value"
  | .endOfList => "EOF while parsing a list"
  | .endOfObject => "EOF while parsing an object"
  | .endOfString => "EOF while parsing a string"
  | .expectedValue => "expected value"
  | .expectedWord => "expected ident"
  | .expectedColon => "expected `:`"
  | .expectedListEnd => "expected `,` or `]`"
  | .expectedObjectEnd => "expected `,` or `\x7d`"
  | .keyNotString => "key must be a string"
  | .trailingComma => "trailing comma"
  | .trailingCharacters => "trailing characters"
  | .tooDeep => "recursion limit exceeded"
  | .invalidNumber => "invalid number"
  | .numberOutOfRange => "number out of range"
  | .invalidEscape => "invalid escape"
  | .controlCharacter =>
      "control character (\\u0000-\\u001F) found while parsing a string"
  | .unpairedSurrogate => "lone leading surrogate in hex escape"
  | .endOfSurrogatePair => "unexpected end of hex escape"
  | .invalidType found expected => "invalid type: " ++ found.message ++ ", expected " ++ expected
  | .invalidValue found expected => "invalid value: " ++ found.message ++ ", expected " ++ expected
  | .invalidLength length expected =>
      "invalid length " ++ toString length ++ ", expected " ++ expected
  | .missingField name => "missing field `" ++ name ++ "`"
  | .duplicateField name => "duplicate field `" ++ name ++ "`"
  | .unknownVariant name expected =>
      "unknown variant `" ++ name ++ "`, expected one of " ++
        ", ".intercalate (expected.map fun variant => "`" ++ variant ++ "`")
  | .refused reason => reason

/-- Where a fault lies, relative to the text that was still unread. -/
inductive Place where
  /-- the place that covers `ahead` further bytes of the unread text -/
  | reached (rest : List Char) (ahead : Nat)
  /-- no place yet: it is where the reading of the enclosing list or object ends -/
  | pending (rest : List Char)
  deriving Repr

/-- A fault with its place. -/
structure Fault where
  cause : Cause
  place : Place
  deriving Repr

namespace Fault

/-- The unread text at a fault. -/
def rest (fault : Fault) : List Char :=
  match fault.place with
  | .reached rest _ | .pending rest => rest

/-- Gives a fault without a place the one in front of `rest`. -/
def settle (fault : Fault) (rest : List Char) : Fault :=
  match fault.place with
  | .reached _ _ => fault
  | .pending _ => ⟨fault.cause, .reached rest 0⟩

/-- Line and column after some bytes: lines from one, columns in bytes from zero. -/
def position (bytes : List UInt8) : Nat × Nat :=
  bytes.foldl (fun (line, column) (byte : UInt8) =>
    if byte = 10 then (line + 1, 0) else (line, column + 1)) (1, 0)

/-- The report of a fault found while reading `text`. -/
def report (fault : Fault) (text : String) : String :=
  match fault.place with
  | .pending _ => fault.cause.message
  | .reached rest ahead =>
      let bytes := text.toList.flatMap String.utf8EncodeChar
      let unread := Text.byteLength rest
      let (line, column) := position (bytes.take (bytes.length - unread + ahead))
      fault.cause.message ++ " at line " ++ toString line ++ " column " ++ toString column

end Fault

/-- Reads a value from the front of a text and returns the rest. -/
abbrev Reader (α : Type) := List Char → Except Fault (α × List Char)

/-- A fault that points at the next byte. -/
def faultAt {α : Type} (cause : Cause) (rest : List Char) : Except Fault α :=
  .error ⟨cause, .reached rest 1⟩

/-- A fault that points at the last byte read. -/
def faultBefore {α : Type} (cause : Cause) (rest : List Char) : Except Fault α :=
  .error ⟨cause, .reached rest 0⟩

/-- A fault whose place is settled by the enclosing value. -/
def faultPending {α : Type} (cause : Cause) (rest : List Char) : Except Fault α :=
  .error ⟨cause, .pending rest⟩

end EntryStore.Json
