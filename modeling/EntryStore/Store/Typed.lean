import EntryStore.Store.Basic

/-!
# Typed reading

Stored text is read back as a value of a type: first as JSON, then, for types that have a
bare form, as that text itself, so that plain text reads back as a string.
-/

namespace EntryStore.Store

open Json (Decoder)

variable {α : Type}

/-- Reads stored text.  If neither reading succeeds, the fault of the JSON is reported. -/
def decodeStored (decoder : Decoder α) (text : String) : Except Error α :=
  match decoder.decode text with
  | .ok value => .ok value
  | .error fault =>
      match decoder.ofText? text with
      | some value => .ok value
      | none => .error (.deserialization (fault.report text))

/-- Reads JSON text. -/
def decodeJson (decoder : Decoder α) (text : String) : Except Error α :=
  (decoder.decode text).mapError fun fault => .deserialization (fault.report text)

variable (store : Store)

/-- The value stored for an owner under a key. -/
def getValue (decoder : Decoder α) (owner key : String) : Program (Option α) := do
  match ← store.getString owner key with
  | none => return none
  | some text => return some (← .ofExcept (decodeStored decoder text))

def getInt64 (owner key : String) : Program (Option Int64) := store.getValue .int64 owner key

def getDouble (owner key : String) : Program (Option Double) := store.getValue .double owner key

def getBool (owner key : String) : Program (Option Bool) := store.getValue .bool owner key

/-- The list stored for an owner under a key; empty where there is no entry. -/
def getList (decoder : Decoder α) (owner key : String) : Program (List α) := do
  match ← store.getString owner key with
  | none => return []
  | some text => .ofExcept (decodeJson decoder.list text)

def getStringList (owner key : String) : Program (List String) := store.getList .string owner key

end EntryStore.Store
