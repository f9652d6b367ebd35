import EntryStore.Json.Reader

/-!
# Reading JSON as a type

A `Decoder` reads values of one type and says what it expected where something else stands.
Some types can also be had from a text as it is, without its JSON quotes; `ofText?` gives
that second reading.
-/

namespace EntryStore.Json

/-- How values of a type are read. -/
structure Decoder (α : Type) where
  /-- reads a value; lists and objects may be nested less than `depth` deep -/
  read : (depth : Nat) → Reader α
  /-- the value that a bare text stands for, if any -/
  ofText? : String → Option α := fun _ => none

/-- The fault for a value that is not of the expected type, which starts at `text`.  A scalar is
read first, and a fault in it counts; before a bracket the reading stops. -/
def mismatch {α : Type} (expected : String) (text : List Char) : Except Fault α :=
  let wrong := fun (found : Found) (rest : List Char) =>
    faultBefore (.invalidType found expected) rest
  match text with
  | [] => faultAt .endOfValue []
  | 'n' :: rest => do wrong .null (← word ['u', 'l', 'l'] rest)
  | 't' :: rest => do wrong (.bool true) (← word ['r', 'u', 'e'] rest)
  | 'f' :: rest => do wrong (.bool false) (← word ['a', 'l', 's', 'e'] rest)
  | '"' :: rest => do
      let (content, rest) ← stringBody rest
      wrong (.string content) rest
  | '[' :: rest => wrong .sequence ('[' :: rest)
  | '\x7b' :: rest => wrong .map ('\x7b' :: rest)
  | c :: rest =>
      if startsNumber c then do
        let (numeral, rest) ← number (c :: rest)
        wrong numeral.found rest
      else faultAt .expectedValue (c :: rest)

/-- Reads a string where `expected` names what is wanted. -/
def stringFor (expected : String) : Reader String := fun text =>
  match skipSpace text with
  | '"' :: rest => stringBody rest
  | rest => mismatch expected rest

/-- Reads a number and accepts it or not; `accept` gives the cause of a refusal. -/
def numberFor {α : Type} (expected : String) (accept : Numeral → Except Cause α) : Reader α :=
  fun text =>
    match skipSpace text with
    | [] => faultAt .endOfValue []
    | c :: rest =>
        if startsNumber c then do
          let (numeral, rest) ← number (c :: rest)
          match accept numeral with
          | .ok value => return (value, rest)
          | .error cause => faultBefore cause rest
        else mismatch expected (c :: rest)

/-- Accepts the integers from `low` to `high`. -/
def integerWithin (expected : String) (low high : Int) : Numeral → Except Cause Int
  | .integer value =>
      if low ≤ value ∧ value ≤ high then .ok value
      else .error (.invalidValue (.integer value) expected)
  | .float value => .error (.invalidType (.float value) expected)

/-- Accepts the integers of 64 bits with sign. -/
def signedWord : Numeral → Except Cause Int :=
  integerWithin "i64" Int64.minValue.toInt Int64.maxValue.toInt

/-- Accepts every number as a double. -/
def anyNumber : Numeral → Except Cause Double
  | .integer value => .ok (Double.ofInt value)
  | .float value => .ok value

/-- Reads a list of values. -/
def listOf {α : Type} (element : (depth : Nat) → Reader α) (depth : Nat) : Reader (List α) :=
  fun text =>
    match skipSpace text with
    | '[' :: rest =>
        if depth ≤ 1 then faultAt .tooDeep ('[' :: rest)
        else enclosed closeList (elements (element (depth - 1)) (rest.length + 1) true) rest
    | rest => mismatch "a sequence" rest

/-- Reads an object as a list of its entries. -/
def mapOf {κ α : Type} (key : Reader κ) (value : (depth : Nat) → Reader α) (depth : Nat) :
    Reader (List (κ × α)) := fun text =>
  match skipSpace text with
  | '\x7b' :: rest =>
      if depth ≤ 1 then faultAt .tooDeep ('\x7b' :: rest)
      else
        enclosed closeObject
          (entries key (fun _ => value (depth - 1)) (rest.length + 1) true) rest
  | rest => mismatch "a map" rest

/-- Reads the name of one of several variants, from its opening quote. -/
def variantName {α : Type} (variants : List (String × α)) : Reader α := fun text => do
  let (name, rest) ← keyText text
  match variants.lookup name with
  | some value => return (value, rest)
  | none => faultBefore (.unknownVariant name (variants.map (·.1))) rest

/-- Reads an object that binds the name of one of several variants to `null`, after its opening
brace. -/
def variantObject {α : Type} (variants : List (String × α)) : Reader α := fun text => do
  match ← nextKey true text with
  | (false, rest) => faultAt .expectedValue rest
  | (true, rest) =>
      let (value, rest) ← variantName variants rest
      let rest ← colon rest
      let rest ←
        match skipSpace rest with
        | 'n' :: rest => word ['u', 'l', 'l'] rest
        | rest => mismatch "unit" rest
      match skipSpace rest with
      | [] => faultAt .endOfObject []
      | '\x7d' :: rest => return (value, rest)
      | rest => faultBefore .expectedValue rest

/-- Reads one of several variants: its name, or an object that binds its name to `null`. -/
def variant {α : Type} (variants : List (String × α)) (depth : Nat) : Reader α := fun text =>
  match skipSpace text with
  | [] => faultAt .endOfValue []
  | '"' :: rest => variantName variants ('"' :: rest)
  | '\x7b' :: rest =>
      if depth ≤ 1 then faultAt .tooDeep ('\x7b' :: rest) else variantObject variants rest
  | rest => faultAt .expectedValue rest

/-- A field of a record that is collected in a state `σ`. -/
structure FieldReader (σ : Type) where
  name : String
  /-- whether the state holds a value for the field -/
  bound : σ → Bool
  /-- reads a value and returns how it is put into the state -/
  read : (depth : Nat) → Reader (σ → σ)

/-- A record of named fields.  It is written as an object, in which fields may stand in any
order and unknown ones are ignored, or as a list of the fields in order. -/
structure RecordReader (σ α : Type) where
  title : String
  fields : List (FieldReader σ)
  empty : σ
  /-- the record of a state, or the first field that is missing -/
  finish : σ → Except Cause α

namespace RecordReader

variable {σ α : Type}

/-- Reads the fields in order, `read` of them having been read. -/
def positional (record : RecordReader σ α) (depth : Nat) :
    (read : Nat) → List (FieldReader σ) → σ → Reader σ
  | _, [], state, text => .ok (state, text)
  | read, field :: others, state, text => do
      match ← nextElement (read == 0) text with
      | (false, rest) =>
          faultPending (.invalidLength read (record.title ++ " with " ++
            toString record.fields.length ++ " elements")) rest
      | (true, rest) =>
          let (update, rest) ← field.read depth rest
          positional record depth (read + 1) others (update state) rest

/-- Reads the entries of an object.  The fuel bounds their number. -/
def named (record : RecordReader σ α) (depth : Nat) :
    (fuel : Nat) → (first : Bool) → σ → Reader σ
  | 0, _, _, text => faultBefore .endOfObject text
  | fuel + 1, first, state, text => do
      match ← nextKey first text with
      | (false, rest) => return (state, rest)
      | (true, rest) =>
          let (name, rest) ← keyText rest
          match record.fields.find? (·.name == name) with
          | none =>
              let (_, rest) ← ignored (← colon rest)
              named record depth fuel false state rest
          | some field =>
              if field.bound state then faultPending (.duplicateField name) rest
              else
                let (update, rest) ← field.read depth (← colon rest)
                named record depth fuel false (update state) rest

/-- Completes a record in front of its closing bracket. -/
def complete (record : RecordReader σ α) (content : Reader σ) : Reader α := fun text => do
  let (state, rest) ← content text
  match record.finish state with
  | .ok value => return (value, rest)
  | .error cause => faultPending cause rest

/-- Reads a record. -/
def read (record : RecordReader σ α) (depth : Nat) : Reader α := fun text =>
  match skipSpace text with
  | '[' :: rest =>
      if depth ≤ 1 then faultAt .tooDeep ('[' :: rest)
      else
        enclosed closeList
          (record.complete (record.positional (depth - 1) 0 record.fields record.empty)) rest
  | '\x7b' :: rest =>
      if depth ≤ 1 then faultAt .tooDeep ('\x7b' :: rest)
      else
        enclosed closeObject
          (record.complete (record.named (depth - 1) (rest.length + 1) true record.empty)) rest
  | rest => mismatch record.title rest

end RecordReader

namespace Decoder

variable {α : Type}

/-- Reads a text that holds one value. -/
def decode (decoder : Decoder α) (text : String) : Except Fault α :=
  readAll (decoder.read depthLimit) text

/-- Strings. -/
def string : Decoder String where
  read := fun _ => stringFor "a string"
  ofText? := some

/-- Truth values. -/
def bool : Decoder Bool where
  read := fun _ text =>
    match skipSpace text with
    | 't' :: rest => do return (true, ← word ['r', 'u', 'e'] rest)
    | 'f' :: rest => do return (false, ← word ['a', 'l', 's', 'e'] rest)
    | rest => mismatch "a boolean" rest

/-- Integers of 64 bits with sign. -/
def int64 : Decoder Int64 where
  read := fun _ text => do
    let (value, rest) ← numberFor "i64" signedWord text
    return (Int64.ofInt value, rest)

/-- Integers of 8 bits without sign. -/
def uint8 : Decoder UInt8 where
  read := fun _ text => do
    let (value, rest) ← numberFor "u8" (integerWithin "u8" 0 255) text
    return (UInt8.ofNat value.toNat, rest)

/-- Doubles; integers are rounded. -/
def double : Decoder Double where
  read := fun _ => numberFor "f64" anyNumber

/-- Documents of any kind. -/
def json : Decoder Json where
  read := document
  ofText? := fun text => some (.string text)

/-- Values that may be `null` instead. -/
def option (decoder : Decoder α) : Decoder (Option α) where
  read := fun depth text =>
    match skipSpace text with
    | 'n' :: rest => do return (none, ← word ['u', 'l', 'l'] rest)
    | rest => do
        let (value, rest) ← decoder.read depth rest
        return (some value, rest)
  ofText? := fun text => (decoder.ofText? text).map some

/-- Lists of values. -/
def list (decoder : Decoder α) : Decoder (List α) where
  read := listOf decoder.read

/-- One of several named variants. -/
def ofVariants (variants : List (String × α)) : Decoder α where
  read := variant variants
  ofText? := fun name => variants.lookup name

/-- Records. -/
def ofRecord {σ : Type} (record : RecordReader σ α) : Decoder α where
  read := record.read

/-- Applies a function to what is read. -/
def map {β : Type} (decoder : Decoder α) (image : α → β) : Decoder β where
  read := fun depth text => do
    let (value, rest) ← decoder.read depth text
    return (image value, rest)
  ofText? := fun text => (decoder.ofText? text).map image

/-- Values of one type that are read as values of another, which a rule may refuse. -/
def filterMap {β : Type} (decoder : Decoder α) (accept : α → Except String β) : Decoder β where
  read := fun depth text => do
    let (value, rest) ← decoder.read depth text
    match accept value with
    | .ok result => return (result, rest)
    | .error reason => faultPending (.refused reason) rest
  ofText? := fun text =>
    match decoder.ofText? text with
    | some value => (accept value).toOption
    | none => none

end Decoder

end EntryStore.Json
