import EntryStore.Command.Grammar

/-!
# How a run ends

A run succeeds with an output, fails with a complaint, or is not begun because the command
line makes no sense.
-/

namespace EntryStore

/-- What is told of a failure: a message and, if the message gives a context, the cause. -/
structure Complaint where
  message : String
  cause? : Option String
  deriving DecidableEq, Repr

namespace Complaint

/-- The complaint about an error. -/
def ofError (error : Error) : Complaint := ⟨error.message, none⟩

/-- The complaint about a cause in a context. -/
def inContext (context cause : String) : Complaint := ⟨context, some cause⟩

/-- A text each of whose lines is indented. -/
def indented (text : String) : String :=
  String.ofList (text.toList.flatMap fun c =>
    if c = '\n' then '\n' :: List.replicate 4 ' ' else [c])

/-- The text of a complaint. -/
def print (complaint : Complaint) : String :=
  "Error: " ++ complaint.message ++
    (match complaint.cause? with
      | some cause => "\n\nCaused by:\n    " ++ indented cause
      | none => "") ++ "\n"

end Complaint

/-- The end of a run. -/
inductive Ending where
  | success (output : String)
  | failure (complaint : Complaint)
  | misuse
  deriving DecidableEq, Repr

namespace Ending

/-- The exit code. -/
def code : Ending → Nat
  | .success _ => 0
  | .failure _ => 1
  | .misuse => 2

/-- The text on the standard output. -/
def output : Ending → String
  | .success output => output
  | .failure _ | .misuse => ""

/-- How to call the program. -/
def usage : String := "Key/value meta store over SQLite

Usage: metaquery [OPTIONS] --database <DATABASE> <COMMAND>

Commands:
  init                            Create the meta table if it does not exist
  get <ID> <KEY> [--list]         Print the value stored under a key
  set <ID> <KEY> <VALUES>...      Store a value; more than one value stores a string list
  delete <ID> <KEY>               Remove one entry
  purge <ID>                      Remove every entry of an id
  keys <ID>                       List the keys stored for an id
  find <COLUMN> <PATTERN>         Find entries whose column matches a pattern
  explain <COLUMN> <PATTERN>      Print the SQL of a find without running it
  help                            Print this message

Options:
  -d, --database <DATABASE>       SQLite URI (e.g. sqlite://meta.db)
      --table-config <FILE>       JSON file mapping logical columns to physical columns
      --table <TABLE>             Table name used with the default column mapping
  -l, --log-level <LOG_LEVEL>     Log level (trace, debug, info, warn, error)
  -h, --help                      Print help
  -V, --version                   Print version
"

/-- The name and version of the program. -/
def versionText : String := "metaquery 0.1.0\n"

/-- The text on the standard error output. -/
def errorOutput : Ending → String
  | .success _ => ""
  | .failure complaint => complaint.print
  | .misuse => usage

/-- The end of a run whose command line interrupts reading. -/
def ofInterruption : Command.Interruption → Ending
  | .misuse => .misuse
  | .help => .success usage
  | .version => .success versionText

/-- The end of a run that produces an output or a complaint. -/
def ofExcept : Except Complaint String → Ending
  | .ok output => .success output
  | .error complaint => .failure complaint

end Ending

end EntryStore
