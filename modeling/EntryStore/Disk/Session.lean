import EntryStore.Disk.Basic
import EntryStore.Sql.Connection
import EntryStore.Sql.Location
import EntryStore.Sql.Settings

/-!
# Sessions with a database on a disk

Opening a location gives a session: a connection to the database that is kept there, and the
place to which it goes back.  A database in memory, one without a name and one whose file is kept
in memory are empty at first and go nowhere.
-/

namespace EntryStore

/-- An open database, the place where it is kept, if anywhere, and whether it may change. -/
structure Session where
  connection : Sql.Connection
  place? : Option Place
  readOnly : Bool
  deriving Repr

/-- The executor over the connection of a session. -/
def Session.executor (session : Session) (meaning : Sql.PatternMeaning) :
    Executor Sql.Connection :=
  if session.readOnly then Sql.Connection.readOnlyExecutor meaning
  else Sql.Connection.executor meaning

namespace Disk

/-- The failure of opening a file where none can be. -/
def cannotOpen : Sql.Failure := .database Sql.Failure.cannotOpenCode "unable to open database file"

/-- The failure of opening a file that holds something else. -/
def notADatabase : Sql.Failure := .database 26 "file is not a database"

/-- The failure of asking for files to be kept in a way that is not known. -/
def noSuchFileSystem (name : String) : Sql.Failure := .database 1 ("no such vfs: " ++ name)

/-- The place that the path of a database names.  `..` takes away a name whether there is
anything of that name or not, but nothing is looked up inside a file. -/
def databasePlace? (disk : Disk) (path : String) : Option Place :=
  (names path).foldlM (fun place name =>
    let next := step place name
    let deeper := place.length < next.length
    if deeper && ((disk.file? place).isSome || maxNameSize < name.utf8ByteSize) then none
    else some next) (disk.origin path)

/-- The database kept in a file.  An empty file is an empty database; it cannot be made ready
for use without a change. -/
def databaseIn (readOnly : Bool) : File → Except Sql.Failure Sql.Database
  | .database content => .ok content
  | .text content =>
      if !content.isEmpty then .error notADatabase
      else if readOnly then .error Sql.Refusal.readOnly.toFailure
      else .ok .empty

/-- Opens the file of a location. -/
def openFile (disk : Disk) (settings : Sql.PoolSettings) (location : Sql.Location)
    (place : Place) : Except Sql.Failure Session :=
  let readOnly := location.readOnly || location.immutable
  if disk.isDirectory place || !disk.isDirectory place.dropLast then .error cannotOpen
  else
    match disk.file? place with
    | some file => do return ⟨.of (← databaseIn location.readOnly file), some place, readOnly⟩
    | none =>
        if location.readOnly || !settings.createIfMissing then .error cannotOpen
        else .ok ⟨.of .empty, some place, readOnly⟩

/-- Opens a location. -/
def openLocation (disk : Disk) (settings : Sql.PoolSettings) (location : Sql.Location) :
    Except Sql.Failure Session :=
  if location.path.toList.contains (Char.ofNat 0) then
    .error (.io "filename passed to SQLite must not contain nul bytes")
  else
    match location.unknownFileSystem? with
    | some name => .error (noSuchFileSystem name)
    | none =>
        if location.inMemory || location.path.isEmpty then
          .ok ⟨.of .empty, none, location.readOnly⟩
        else if location.fileSystem? = some Sql.Location.memoryFileSystem then
          .ok ⟨.of .empty, none, location.readOnly || location.immutable⟩
        else
          match disk.databasePlace? location.path with
          | some place => disk.openFile settings location place
          | none => .error cannotOpen

/-- Opens the location that a URI names. -/
def openUri (disk : Disk) (settings : Sql.PoolSettings) (uri : String) :
    Except Error Session := do
  let location ← (Sql.Location.ofUri uri).mapError (Sql.Location.Fault.toError uri)
  (disk.openLocation settings location).mapError Sql.Failure.toError

/-- Writes the database of a session back. -/
def keep (disk : Disk) (session : Session) : Disk :=
  match session.place? with
  | some place => disk.write place (.database session.connection.database)
  | none => disk

end Disk

end EntryStore
