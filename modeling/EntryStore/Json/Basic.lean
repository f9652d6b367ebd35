import EntryStore.Double.Printer

/-!
# JSON documents

The value of a JSON text.  Integers are kept apart from floating-point numbers.  The
entries of an object are in the order in which they are written; `Json.insert` keeps them
sorted by key, so documents built with it are equal exactly when they mean the same.
-/

namespace EntryStore

/-- A JSON document. -/
inductive Json where
  | null
  | bool (value : Bool)
  | integer (value : Int)
  | float (value : Double)
  | string (value : String)
  | array (elements : List Json)
  | object (entries : List (String × Json))
  deriving Repr, Inhabited

namespace Json

/-- Binds a key in sorted entries, replacing an earlier binding of the same key. -/
def insert (key : String) (value : Json) : List (String × Json) → List (String × Json)
  | [] => [(key, value)]
  | (other, present) :: rest =>
      if key < other then (key, value) :: (other, present) :: rest
      else if key = other then (key, value) :: rest
      else (other, present) :: insert key value rest

/-- The object with the given entries; of several entries for one key the last one counts. -/
def ofEntries (entries : List (String × Json)) : Json :=
  .object (entries.foldl (fun sorted (key, value) => insert key value sorted) [])

/-- The text of a JSON string, if the document is one. -/
def string? : Json → Option String
  | .string text => some text
  | _ => none

@[simp] theorem string?_string (text : String) : (Json.string text).string? = some text := rfl

end Json

end EntryStore
