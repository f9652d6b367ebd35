import EntryStore.Command.Basic
import EntryStore.Command.Grammar

/-!
# Reading a command line

A command line names options that hold for every command, then a command, then the options
and operands of the command.  No option may be given twice.
-/

namespace EntryStore.Command

/-- The first word of a request. -/
inductive Verb where
  | init
  | get
  | set
  | delete
  | purge
  | keys
  | find
  | explain
  deriving DecidableEq, Repr

namespace Verb

/-- All verbs by their names. -/
def table : List (String × Verb) :=
  [("init", .init), ("get", .get), ("set", .set), ("delete", .delete), ("purge", .purge),
   ("keys", .keys), ("find", .find), ("explain", .explain)]

/-- How many operands a verb takes at most, if there is a limit. -/
def operandLimit : Verb → Option Nat
  | .init => some 0
  | .purge | .keys => some 1
  | .get | .delete | .find | .explain => some 2
  | .set => none

/-- Whether the operands of a verb describe a search. -/
def isSearch : Verb → Bool
  | .find | .explain => true
  | _ => false

end Verb

/-- A name as it is written on the command line, with dashes between its words. -/
def dashed (name : String) : String :=
  String.ofList (name.toList.map fun c => if c = '_' then '-' else c)

/-- The field of a written name. -/
def fieldOf? (written : String) : Option Field := Field.all.find? (dashed ·.name == written)

/-- The anchoring of a written name. -/
def anchoringOf? (written : String) : Option Anchoring :=
  Anchoring.all.find? (dashed ·.name == written)

/-- The names of the log levels. -/
def logLevels : List (String × LogLevel) :=
  [("error", .error), ("warn", .warn), ("info", .info), ("debug", .debug), ("trace", .trace)]

/-- The value of a decimal numeral, which may have a plus sign. -/
def numeral? (digits : List Char) : Option Nat :=
  let digits := if digits.head? = some '+' then digits.tail else digits
  if digits.isEmpty || !digits.all Char.isDigit then none
  else some (digits.foldl (fun value digit => 10 * value + (digit.toNat - '0'.toNat)) 0)

/-- A log level by its name in letters of either case, or by its number from 1 to 5. -/
def logLevelOf? (written : String) : Option LogLevel :=
  match numeral? written.toList with
  | some number => if number = 0 then none else logLevels[number - 1]?.map (·.2)
  | none => logLevels.lookup (String.ofList (written.toList.map Char.toLower))

/-- Gives an option its value, which it must not have yet. -/
def once {α : Type} (current : Option α) (value? : Option α) : Except Interruption (Option α) :=
  match current, value? with
  | none, some value => .ok (some value)
  | _, _ => .error .misuse

/-! ## Options for every command -/

/-- The options that have been given. -/
structure GlobalOptions where
  database : Option String := none
  tableConfig : Option String := none
  table : Option String := none
  logLevel : Option LogLevel := none

def databaseOption : Effect GlobalOptions := .valued fun text options => do
  return { options with database := ← once options.database (some text) }

/-- The path of a description cannot be empty. -/
def tableConfigOption : Effect GlobalOptions := .valued fun text options => do
  let path? := if text.isEmpty then none else some text
  return { options with tableConfig := ← once options.tableConfig path? }

def tableOption : Effect GlobalOptions := .valued fun text options => do
  return { options with table := ← once options.table (some text) }

def logLevelOption : Effect GlobalOptions := .valued fun text options => do
  return { options with logLevel := ← once options.logLevel (logLevelOf? text) }

/-- An option that interrupts reading. -/
def interrupting {σ : Type} (interruption : Interruption) : Effect σ :=
  .flag fun _ => .error interruption

/-- The options in front of the verb. -/
def globalGrammar : Grammar GlobalOptions where
  long := fun name =>
    match name with
    | "database" => some databaseOption
    | "table-config" => some tableConfigOption
    | "table" => some tableOption
    | "log-level" => some logLevelOption
    | "help" => some (interrupting .help)
    | "version" => some (interrupting .version)
    | _ => none
  short := fun letter =>
    match letter with
    | 'd' => some databaseOption
    | 'l' => some logLevelOption
    | 'h' => some (interrupting .help)
    | 'V' => some (interrupting .version)
    | _ => none
  operand? := none

/-- The name of the table unless another is given. -/
def standardTable : String := "meta"

/-- Which table the options choose; a description counts before a name. -/
def GlobalOptions.tableChoice (options : GlobalOptions) : TableChoice :=
  match options.tableConfig with
  | some path => .described path
  | none => .standard (options.table.getD standardTable)

/-! ## Options and operands of a verb -/

/-- What has been given to a verb. -/
structure Arguments where
  operands : List String := []
  asList : Option Unit := none
  anchoring : Option Anchoring := none

/-- Takes an operand, unless there are too many or the field of a search is not known. -/
def takeOperand (verb : Verb) (text : String) (given : Arguments) :
    Except Interruption Arguments :=
  if verb.operandLimit = some given.operands.length then .error .misuse
  else if verb.isSearch && given.operands.isEmpty && (fieldOf? text).isNone then .error .misuse
  else .ok { given with operands := given.operands ++ [text] }

def listOption : Effect Arguments := .flag fun given => do
  return { given with asList := ← once given.asList (some ()) }

def kindOption : Effect Arguments := .valued fun text given => do
  return { given with anchoring := ← once given.anchoring (anchoringOf? text) }

/-- The options and operands of a verb. -/
def Verb.grammar (verb : Verb) : Grammar Arguments where
  long := fun name =>
    match name with
    | "help" => some (interrupting .help)
    | "list" => if verb = .get then some listOption else none
    | "kind" => if verb.isSearch then some kindOption else none
    | _ => none
  short := fun letter =>
    match letter with
    | 'h' => some (interrupting .help)
    | _ => none
  operand? := some (takeOperand verb)

/-- The search that arguments describe. -/
def Arguments.search? (given : Arguments) : Option Search :=
  match given.operands with
  | [field, pattern] => do
      return ⟨← fieldOf? field, pattern, given.anchoring.getD .standard⟩
  | _ => none

/-- The request that a verb and its arguments make, if none is missing. -/
def Verb.request? (verb : Verb) (given : Arguments) : Option Request :=
  match verb, given.operands with
  | .init, [] => some (.work .init)
  | .get, [owner, key] => some (.work (.get owner key given.asList.isSome))
  | .set, owner :: key :: first :: others => some (.work (.set owner key first others))
  | .delete, [owner, key] => some (.work (.delete owner key))
  | .purge, [owner] => some (.work (.purge owner))
  | .keys, [owner] => some (.work (.keys owner))
  | .find, _ => given.search?.map fun search => .work (.find search)
  | .explain, _ => given.search?.map .explain
  | _, _ => none

/-! ## Command lines -/

/-- The interruption by the word `help` and the verbs after it. -/
def helpOn : List String → Interruption
  | [] => .help
  | [name] => if name = "help" || (Verb.table.lookup name).isSome then .help else .misuse
  | _ => .misuse

/-- An optional result that has to be there. -/
def need {α : Type} (value? : Option α) : Except Interruption α :=
  match value? with
  | some value => .ok value
  | none => .error .misuse

end EntryStore.Command

namespace EntryStore

/-- Reads a command line.  The database comes from the environment if it is not given. -/
def Invocation.read (environment : Option String) (words : List String) :
    Except Command.Interruption Invocation := do
  let (options, rest) ← Command.globalGrammar.read words {}
  match rest with
  | [] => .error .misuse
  | "help" :: names => .error (Command.helpOn names)
  | name :: words =>
      let verb ← Command.need (Command.Verb.table.lookup name)
      let (arguments, _) ← verb.grammar.read words {}
      let request ← Command.need (verb.request? arguments)
      let database ← Command.need (options.database <|> environment)
      return ⟨database, options.tableChoice, options.logLevel.getD .warn, request⟩

end EntryStore
