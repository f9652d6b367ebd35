import EntryStore.Sql.Failure
import EntryStore.Sql.Reader
import EntryStore.Text.Hex
import EntryStore.Text.Quoted
import EntryStore.Text.Utf8

/-!
# Locations of databases

A location is written as a URI: a scheme, which may be left out, the path of a file or the
word for a database in memory, and after a question mark options as in the query of a web
address.  In the path and in the options, a percent sign and two hexadecimal digits stand
for a byte.  Whether a file that is missing is created is not for the location to say.
-/

namespace EntryStore.Sql

/-- Where a database is kept. -/
structure Location where
  /-- the path of a file; the empty path stands for a file of no name that does not last -/
  path : String
  inMemory : Bool := false
  readOnly : Bool := false
  /-- whether the file is taken for one that nobody changes -/
  immutable : Bool := false
  /-- the way in which files are kept, if it is named -/
  fileSystem? : Option String := none
  deriving DecidableEq, Repr

namespace Location

/-- Why a URI names no location. -/
inductive Fault where
  | empty
  | path (fault : Text.Utf8Fault)
  | unknownValue (option value : String)
  | unknownOption (option : String)
  deriving DecidableEq, Repr

/-- What is wrong with a URI. -/
def Fault.reason : Fault → String
  | .empty => "SQLite URI cannot be empty"
  | .path fault => fault.message
  | .unknownValue option value =>
      "unknown value " ++ Text.quoted value ++ " for `" ++ option ++ "`"
  | .unknownOption option =>
      "unknown query parameter `" ++ option ++ "` while parsing connection URL"

/-- How a faulty URI is reported. -/
def Fault.toError (uri : String) (fault : Fault) : Error :=
  match fault with
  | .empty => .connection fault.reason
  | _ =>
      .connection ("Invalid SQLite URI " ++ uri ++ ": " ++
        (Failure.configuration fault.reason).message)

/-- Removes all repetitions of a beginning.  The fuel bounds their number. -/
def stripRepeated (beginning : List Char) : (fuel : Nat) → List Char → List Char
  | 0, text => text
  | fuel + 1, text =>
      match expect beginning text with
      | some rest => stripRepeated beginning fuel rest
      | none => text

/-- A URI without its scheme. -/
def withoutScheme (uri : List Char) : List Char :=
  let rest := stripRepeated "sqlite://".toList uri.length uri
  stripRepeated "sqlite:".toList rest.length rest

/-- The parts of a text before and after the first separator. -/
def splitFirst (separator : Char) (text : List Char) : List Char × Option (List Char) :=
  match text.span (· != separator) with
  | (before, []) => (before, none)
  | (before, _ :: after) => (before, some after)

/-- The bytes of a text in which percent signs introduce bytes. -/
def percentDecode : List Char → List UInt8
  | [] => []
  | '%' :: high :: low :: rest =>
      match Text.hexDigit? high, Text.hexDigit? low with
      | some high, some low => UInt8.ofNat (16 * high + low) :: percentDecode rest
      | _, _ => 0x25 :: percentDecode (high :: low :: rest)
  | c :: rest => String.utf8EncodeChar c ++ percentDecode rest

/-- A name or value in the options of a URI; a plus sign stands for a blank there. -/
def optionText (text : List Char) : String :=
  Text.ofUtf8Lossy (percentDecode (text.map fun c => if c = '+' then ' ' else c))

/-- The names and values of the options of a URI. -/
def readOptions (text : List Char) : List (String × String) :=
  (text.splitOn '&').filterMap fun item =>
    if item.isEmpty then none
    else
      let (name, value?) := splitFirst '=' item
      some (optionText name, optionText (value?.getD []))

/-- The way of keeping files in memory alone. -/
def memoryFileSystem : String := "memdb"

/-- The ways in which files can be kept. -/
def fileSystems : List String :=
  ["unix", "unix-none", "unix-dotfile", "unix-excl", memoryFileSystem]

/-- The way of keeping files that a location asks for, if it is not known. -/
def unknownFileSystem? (location : Location) : Option String :=
  location.fileSystem?.filter fun name => !fileSystems.contains name

/-- Applies an option to a location. -/
def applyOption (location : Location) (option value : String) : Except Fault Location :=
  match option with
  | "mode" =>
      match value with
      | "ro" => .ok { location with readOnly := true }
      | "rw" | "rwc" => .ok location
      | "memory" => .ok { location with inMemory := true }
      | _ => .error (.unknownValue option value)
  | "cache" =>
      if value ∈ ["private", "shared"] then .ok location else .error (.unknownValue option value)
  | "immutable" =>
      if value ∈ ["true", "1"] then .ok { location with immutable := true }
      else if value ∈ ["false", "0"] then .ok { location with immutable := false }
      else .error (.unknownValue option value)
  | "vfs" => .ok { location with fileSystem? := some value }
  | _ => .error (.unknownOption option)

/-- The path that stands for a database in memory. -/
def memoryPath : String := ":memory:"

/-- The location of a database path without options. -/
def ofPath (path : List Char) : Except Fault Location :=
  match Text.ofUtf8 (percentDecode path) with
  | .ok path =>
      if path = memoryPath then .ok { path := "", inMemory := true } else .ok { path := path }
  | .error fault => .error (.path fault)

/-- The location that a URI names. -/
def ofUri (uri : String) : Except Fault Location :=
  if uri.isEmpty then .error .empty
  else do
    let (path, options?) := splitFirst '?' (withoutScheme uri.toList)
    (readOptions (options?.getD [])).foldlM (fun location (option, value) =>
      location.applyOption option value) (← ofPath path)

end Location

end EntryStore.Sql
