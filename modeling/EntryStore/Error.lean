/-!
# Errors

What a caller learns when a request fails: the class of the failure and its wording.
-/

namespace EntryStore

/-- A failed request. -/
inductive Error where
  /-- a value of the wrong kind for a field that holds text only -/
  | valueType (field found : String)
  /-- a field that the mapping of a table leaves out -/
  | unmapped (field table : String)
  /-- a query that makes no statement -/
  | query (reason : String)
  /-- a name or mapping that breaks the rules -/
  | validation (reason : String)
  /-- a value that has no written form -/
  | serialization (reason : String)
  /-- rows or text that do not have the expected form -/
  | deserialization (reason : String)
  /-- a statement that the database refused -/
  | backend (reason : String)
  /-- a database that cannot be reached -/
  | connection (reason : String)
  /-- a database that did not answer in time -/
  | timeout (reason : String)
  deriving DecidableEq, Repr, Inhabited

namespace Error

/-- The wording of an error. -/
def message : Error → String
  | .valueType field found =>
      "Value type error: column " ++ field ++ " only accepts text values, got " ++ found
  | .unmapped field table =>
      "Unmapped column: " ++ field ++ " has no physical mapping in table " ++ table
  | .query reason => "Query error: " ++ reason
  | .validation reason => "Validation error: " ++ reason
  | .serialization reason => "Serialization error: " ++ reason
  | .deserialization reason => "Deserialization error: " ++ reason
  | .backend reason => "Backend error: " ++ reason
  | .connection reason => "Connection error: " ++ reason
  | .timeout reason => "Timeout: " ++ reason

/-- Raised while a statement runs or its result is read. -/
def isBackend : Error → Bool
  | .backend _ | .connection _ | .timeout _ | .deserialization _ => true
  | _ => false

/-- Points at a broken mapping. -/
def isConfigurationDefect : Error → Bool
  | .unmapped _ _ | .validation _ => true
  | _ => false

/-- No error is both. -/
theorem isConfigurationDefect_eq_false_of_isBackend {error : Error}
    (backend : error.isBackend = true) : error.isConfigurationDefect = false := by
  cases error <;> simp_all [isBackend, isConfigurationDefect]

end Error

end EntryStore
