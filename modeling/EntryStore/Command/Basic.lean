import EntryStore.Field
import EntryStore.Pattern

/-!
# Commands

What can be asked of the program on its command line.
-/

namespace EntryStore

/-- A search for the entries in which a field matches a pattern. -/
structure Search where
  field : Field
  pattern : String
  anchoring : Anchoring
  deriving DecidableEq, Repr

/-- Work on a database. -/
inductive Command where
  /-- creates the table unless it exists -/
  | init
  /-- shows the text of an entry, or the items of the list that it holds -/
  | get (owner key : String) (asList : Bool)
  /-- stores one text, or several as a list -/
  | set (owner key : String) (first : String) (others : List String)
  | delete (owner key : String)
  | purge (owner : String)
  | keys (owner : String)
  | find (search : Search)
  deriving DecidableEq, Repr

/-- A request: work on a database, or an explanation, which needs none. -/
inductive Request where
  | work (command : Command)
  /-- shows the statement of a search without running it -/
  | explain (search : Search)
  deriving DecidableEq, Repr

/-- Which table is used: one that a file describes, or one with standard columns. -/
inductive TableChoice where
  | described (path : String)
  | standard (name : String)
  deriving DecidableEq, Repr

/-- How much is logged. -/
inductive LogLevel where
  | error
  | warn
  | info
  | debug
  | trace
  deriving DecidableEq, Repr

/-- A request with all that its run depends on. -/
structure Invocation where
  /-- the URI of the database -/
  database : String
  table : TableChoice
  logLevel : LogLevel
  request : Request
  deriving DecidableEq, Repr

end EntryStore
