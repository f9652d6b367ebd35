import EntryStore.Sql.Database

/-!
# Disks

A disk holds directories and files.  Paths that do not begin with a slash start in the
working directory.  A file holds text or a database.
-/

namespace EntryStore

/-- What a file holds. -/
inductive File where
  | text (content : String)
  | database (content : Sql.Database)
  deriving Repr

/-- The names that lead from the root of a disk to a place on it. -/
abbrev Place := List String

/-- Directories and files. -/
structure Disk where
  workingDirectory : Place
  directories : List Place
  files : List (Place × File)
  deriving Repr

namespace Disk

/-- The names of a path. -/
def names (path : String) : List String := (path.toList.splitOn '/').map String.ofList

/-- The place to which a name leads from a place. -/
def step (place : Place) (name : String) : Place :=
  match name with
  | "" | "." => place
  | ".." => place.dropLast
  | name => place ++ [name]

/-- The place to which names lead from a place, whether there is anything on the way or not. -/
def walk (place : Place) (names : List String) : Place := names.foldl step place

/-- The place where a path starts. -/
def origin (disk : Disk) (path : String) : Place :=
  if path.toList.head? = some '/' then [] else disk.workingDirectory

/-- The place that a path names. -/
def place (disk : Disk) (path : String) : Place := walk (disk.origin path) (names path)

/-- Whether a place is a directory; the root always is. -/
def isDirectory (disk : Disk) (place : Place) : Bool :=
  place.isEmpty || disk.directories.contains place

/-- The file at a place. -/
def file? (disk : Disk) (place : Place) : Option File := disk.files.lookup place

/-- Puts a file at a place, replacing one that is there. -/
def write (disk : Disk) (place : Place) (file : File) : Disk :=
  { disk with files := (place, file) :: disk.files.filter (·.1 != place) }

/-- What is read after writing. -/
@[simp] theorem file?_write (disk : Disk) (place : Place) (file : File) :
    (disk.write place file).file? place = some file := by
  simp [write, file?]

/-- Why a path leads to no text. -/
inductive ReadFault where
  | notFound
  | notADirectory
  | isDirectory
  | nameTooLong
  | notText
  deriving DecidableEq, Repr

/-- The wording of a fault. -/
def ReadFault.message : ReadFault → String
  | .notFound => "No such file or directory (os error 2)"
  | .notADirectory => "Not a directory (os error 20)"
  | .isDirectory => "Is a directory (os error 21)"
  | .nameTooLong => "File name too long (os error 36)"
  | .notText => "stream did not contain valid UTF-8"

/-- The size of the longest name in a directory. -/
def maxNameSize : Nat := 255

/-- Looks up names one after the other, each in the directory to which those before it lead;
`.`, `..` and the empty name behind a slash ask for a directory too. -/
def follow (disk : Disk) (place : Place) : List String → Except ReadFault Place
  | [] => .ok place
  | name :: rest =>
      if disk.isDirectory place then
        if maxNameSize < name.utf8ByteSize then .error .nameTooLong
        else disk.follow (step place name) rest
      else if (disk.file? place).isSome then .error .notADirectory
      else .error .notFound

/-- The text of a file. -/
def readText (disk : Disk) (path : String) : Except ReadFault String := do
  if path.isEmpty then throw .notFound
  let place ← disk.follow (disk.origin path) (names path)
  if disk.isDirectory place then throw .isDirectory
  match disk.file? place with
  | some (.text content) => return content
  | some (.database _) => throw .notText
  | none => throw .notFound

end Disk

end EntryStore
