import EntryStore.Command.Ending
import EntryStore.Command.Reader
import EntryStore.Disk.Session
import EntryStore.Mapping.Reader
import EntryStore.Store.Typed

/-!
# Running commands

A command is a program over the store whose result is what it prints.  An explanation
compiles the statement of a search and sends nothing.  An invocation finds the table, opens
the database and runs its command there.
-/

namespace EntryStore

/-- An entry as a document. -/
def Entry.toJson (entry : Entry) : Json :=
  .object [(Field.owner.name, .string entry.owner), (Field.key.name, .string entry.key),
    (Field.value.name, match entry.value with
      | some text => .string text
      | none => .null)]

/-- Texts, each on a line of its own. -/
def lines (texts : List String) : String := String.join (texts.map (· ++ "\n"))

namespace Search

/-- The statement of a search. -/
def statement (search : Search) (layout : Layout) : Except Defect Sql.Prepared := do
  (← Query.find search.field search.pattern search.anchoring).compile layout

/-- Shows the statement of a search and its parameters. -/
def explain (search : Search) (layout : Layout) : Except Error String := do
  let prepared ← (search.statement layout).mapError Defect.toError
  return lines [prepared.sql, (Json.array (prepared.params.map Json.string)).print]

end Search

namespace Command

/-- What is said of removed entries. -/
def removalText (count : Nat) : String :=
  "Removed " ++ toString count ++ " entr" ++ (if count = 1 then "y" else "ies")

/-- What a command prints; nothing if it asks for an entry that is not there. -/
def output (store : Store) : Command → Program (Option String)
  | .init => do
      store.ensureTable
      return some (lines ["Table " ++ store.mapping.table ++ " ready"])
  | .get owner key true => do return some (lines (← store.getStringList owner key))
  | .get owner key false => do
      return (← store.getString owner key).map fun text => lines [text]
  | .set owner key first [] => do
      store.setString owner key (some first)
      return some ""
  | .set owner key first others => do
      store.setStringList owner key (some (first :: others))
      return some ""
  | .delete owner key => do return some (lines [removalText (← store.delete owner key)])
  | .purge owner => do return some (lines [removalText (← store.purge owner)])
  | .keys owner => do return some (lines (← store.keys owner))
  | .find search => do
      let entries ← store.find search.field search.pattern search.anchoring
      return some (lines [(Json.array (entries.map Entry.toJson)).pretty])

/-- The complaint where a command asks for an entry that is not there. -/
def absence : Command → Complaint
  | .get owner key _ => ⟨"No value for " ++ owner ++ " / " ++ key, none⟩
  | _ => ⟨"No value", none⟩

/-- The complaint about an error in a command. -/
def complaint : Command → Error → Complaint
  | .init, error => .inContext "Failed to create meta table" error.message
  | _, error => .ofError error

/-- Runs a command. -/
def run {σ : Type} (store : Store) (executor : Executor σ) (command : Command) (state : σ) :
    Ending × σ :=
  match (command.output store).run executor state with
  | (.ok (some output), state) => (.success output, state)
  | (.ok none, state) => (.failure command.absence, state)
  | (.error error, state) => (.failure (command.complaint error), state)

end Command

/-- Finds the mapping of the chosen table. -/
def TableChoice.load (normalize : String → String) (disk : Disk) :
    TableChoice → Except Complaint Mapping
  | .described path => do
      let text ← (disk.readText path).mapError fun fault =>
        .inContext ("Failed to read table config " ++ path) fault.message
      (Mapping.ofJson normalize text).mapError fun error =>
        .inContext ("Invalid table config " ++ path) error.message
  | .standard name =>
      (Mapping.standard normalize name).mapError fun fault =>
        .inContext ("Invalid table name " ++ name) fault.toError.message

namespace Invocation

/-- Runs a command on the database of an invocation. -/
def work (meaning : Sql.PatternMeaning) (disk : Disk) (database : String) (mapping : Mapping)
    (command : Command) : Ending × Disk :=
  match disk.openUri {} database with
  | .error error =>
      (.failure (.inContext ("Failed to open " ++ database) error.message), disk)
  | .ok session =>
      match Store.ofMapping mapping with
      | .error missing => (.failure (.ofError missing.toError), disk.keep session)
      | .ok store =>
          let (ending, connection) :=
            command.run store (session.executor meaning) session.connection
          (ending, disk.keep { session with connection := connection })

/-- Runs an invocation. -/
def run (normalize : String → String) (meaning : Sql.PatternMeaning) (disk : Disk)
    (invocation : Invocation) : Ending × Disk :=
  match invocation.table.load normalize disk with
  | .error complaint => (.failure complaint, disk)
  | .ok mapping =>
      match invocation.request with
      | .explain search =>
          (.ofExcept ((search.explain mapping.layout).mapError Complaint.ofError), disk)
      | .work command => work meaning disk invocation.database mapping command

end Invocation

/-- Runs a command line. -/
def runCommandLine (normalize : String → String) (meaning : Sql.PatternMeaning) (disk : Disk)
    (environment : Option String) (words : List String) : Ending × Disk :=
  match Invocation.read environment words with
  | .error interruption => (.ofInterruption interruption, disk)
  | .ok invocation => invocation.run normalize meaning disk

end EntryStore
