import EntryStore.Command.Run
import EntryStore.Regex.Parser
import EntryStore.Sql.Image
import EntryStore.Text.Normal

/-!
# The command line

Loads the files that an invocation speaks of, runs it, and writes its database back.
-/

namespace EntryStore

/-- The variable of the environment that may hold the URI of the database. -/
def databaseVariable : String := "METAQUERY_DATABASE_URL"

/-- The paths of the files that an invocation speaks of. -/
def Invocation.paths (invocation : Invocation) : List String :=
  let table :=
    match invocation.table with
    | .described path => [path]
    | .standard _ => []
  let database :=
    match Sql.Location.ofUri invocation.database with
    | .ok location => if location.inMemory || location.path.isEmpty then [] else [location.path]
    | .error _ => []
  table ++ database

/-- A place as an absolute path. -/
def Place.toPath (place : Place) : String := "/" ++ "/".intercalate place

/-- A file with a given text: a database if the text is the document of one. -/
def File.ofText (text : String) : File :=
  match (Json.Decoder.json.decode text).toOption.bind Sql.Database.ofJson? with
  | some content => .database content
  | none => .text text

/-- The places that a path passes, its own among them. -/
def Disk.trail (disk : Disk) (path : String) : List Place :=
  (Disk.names path).foldl (fun places name => places ++ [Disk.step (places.getLastD []) name])
    [disk.origin path]

/-- Adds what is at a place to a disk.  What is there but cannot be read counts as a
directory. -/
def Disk.load (disk : Disk) (place : Place) : IO Disk := do
  try
    return disk.write place (.ofText (← IO.FS.readFile place.toPath))
  catch error =>
    match error with
    | .noFileOrDirectory .. => return disk
    | _ => return { disk with directories := place :: disk.directories }

/-- Writes the databases of a disk to their places. -/
def Disk.save (disk : Disk) : IO Unit := do
  for (place, file) in disk.files do
    match file with
    | .database content => IO.FS.writeFile place.toPath content.toJson.print
    | .text _ => pure ()

end EntryStore

open EntryStore in
/-- Runs the command line. -/
def main (words : List String) : IO UInt32 := do
  let environment ← IO.getEnv databaseVariable
  let directory ← IO.currentDir
  let mut disk : Disk := ⟨Disk.walk [] (directory.toString.splitOn "/"), [], []⟩
  if let .ok invocation := Invocation.read environment words then
    for path in invocation.paths do
      for place in disk.trail path do
        disk ← disk.load place
  let (ending, after) := runCommandLine Text.normalize Regex.matcher? disk environment words
  after.save
  (← IO.getStdout).putStr ending.output
  (← IO.getStderr).putStr ending.errorOutput
  return UInt32.ofNat ending.code
