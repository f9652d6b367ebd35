import EntryStore.Json.Decoder

/-!
# Values

A value is what a query stores or compares a cell with.  Cells hold text: a text is stored
as it is, every other value as its JSON text.
-/

namespace EntryStore

/-- A value of one of five kinds. -/
inductive Value where
  | text (content : String)
  | integer (number : Int64)
  | float (number : Double)
  | bool (truth : Bool)
  /-- a JSON document of any form -/
  | json (document : Json)
  deriving Repr, Inhabited

namespace Value

/-- The name of a value's kind. -/
def kind : Value → String
  | .text _ => "text"
  | .integer _ => "integer"
  | .float _ => "float"
  | .bool _ => "bool"
  | .json _ => "json"

/-- The content of a text value. -/
def text? : Value → Option String
  | .text content => some content
  | _ => none

def isText (value : Value) : Bool := value.text?.isSome

/-- The value as a JSON document. -/
def toJson : Value → Json
  | .text content => .string content
  | .integer number => .integer number.toInt
  | .float number => .float number
  | .bool truth => .bool truth
  | .json document => document

/-- The text that a cell holds for the value: a text itself, and the JSON text of any other. -/
def parameter : Value → String
  | .text content => content
  | value => value.toJson.print

/-- The value as messages show it: like its parameter, except that floating-point numbers are
in plain notation. -/
def display : Value → String
  | .float number => number.toPlainText
  | value => value.parameter

/-- The value that a document stands for: strings, truth values and numbers have kinds of
their own.  An integer of more than 64 bits is taken as a floating-point number. -/
def ofJson : Json → Value
  | .string content => .text content
  | .bool truth => .bool truth
  | .float number => .float number
  | .integer number =>
      if Int64.minValue.toInt ≤ number ∧ number ≤ Int64.maxValue.toInt then
        .integer (Int64.ofInt number)
      else .float (Double.ofInt number)
  | document => .json document

/-- Values are read by the form of their document; a bare text is a text. -/
def decoder : Json.Decoder Value := Json.Decoder.json.map ofJson

end Value

end EntryStore
