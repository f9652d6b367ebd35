import EntryStore.Sql.Location

/-!
# Words on a command line

A command line is a list of words.  A word that begins with two dashes names an option, and
its value may follow after an equals sign; a word that begins with one dash is a cluster of
one-letter options, the last of which may have its value attached.  An option without an
attached value takes the next word, unless that looks like an option.  The word `--` ends
the options.  All other words are operands.
-/

namespace EntryStore.Command

/-- Why reading a command line ends early. -/
inductive Interruption where
  /-- the line does not follow the grammar -/
  | misuse
  /-- help is asked for -/
  | help
  /-- the version is asked for -/
  | version
  deriving DecidableEq, Repr

/-- What a word is by its form. -/
inductive Word where
  | operand (text : String)
  | long (name : String) (value? : Option String)
  | cluster (letters : List Char)
  | endOfOptions
  deriving DecidableEq, Repr

namespace Word

/-- The form of a word.  A single dash is an operand. -/
def ofString (text : String) : Word :=
  match text.toList with
  | ['-', '-'] => .endOfOptions
  | '-' :: '-' :: rest =>
      let (name, value?) := Sql.Location.splitFirst '=' rest
      .long (String.ofList name) (value?.map String.ofList)
  | '-' :: letter :: rest => .cluster (letter :: rest)
  | _ => .operand text

/-- Whether a word can be the value of an option. -/
def isOperand : Word → Bool
  | .operand _ => true
  | _ => false

end Word

/-- What an option does to what has been read; `σ` is the type of what has been read. -/
inductive Effect (σ : Type) where
  | flag (apply : σ → Except Interruption σ)
  | valued (apply : String → σ → Except Interruption σ)

/-- The options and operands that are understood. -/
structure Grammar (σ : Type) where
  long : String → Option (Effect σ)
  short : Char → Option (Effect σ)
  /-- how operands are taken; without it reading stops at the first operand -/
  operand? : Option (String → σ → Except Interruption σ)

/-- The state after a word. -/
inductive Step (σ : Type) where
  | go (state : σ)
  /-- an option waits for its value -/
  | wait (apply : String → σ → Except Interruption σ) (state : σ)
  /-- reading stops in front of the word -/
  | stop
  /-- all further words are operands -/
  | operands (take : String → σ → Except Interruption σ)

namespace Grammar

variable {σ : Type} (grammar : Grammar σ)

/-- Reads a cluster of options. -/
def readCluster : List Char → σ → Except Interruption (Step σ)
  | [], state => .ok (.go state)
  | letter :: rest, state =>
      match grammar.short letter with
      | none => .error .misuse
      | some (.flag apply) => do readCluster rest (← apply state)
      | some (.valued apply) =>
          match rest with
          | [] => .ok (.wait apply state)
          | '=' :: value => do return .go (← apply (String.ofList value) state)
          | value => do return .go (← apply (String.ofList value) state)

/-- Reads one word. -/
def readWord (word : String) (state : σ) : Except Interruption (Step σ) :=
  match Word.ofString word, grammar.operand? with
  | .operand _, none => .ok .stop
  | .operand text, some take => do return .go (← take text state)
  | .endOfOptions, none => .error .misuse
  | .endOfOptions, some take => .ok (.operands take)
  | .cluster letters, _ => grammar.readCluster letters state
  | .long name value?, _ =>
      match grammar.long name, value? with
      | some (.flag apply), none => do return .go (← apply state)
      | some (.valued apply), some value => do return .go (← apply value state)
      | some (.valued apply), none => .ok (.wait apply state)
      | some (.flag _), some _ | none, _ => .error .misuse

/-- Reads words from left to right and returns those in front of which reading stopped. -/
def read : List String → σ → Except Interruption (σ × List String)
  | [], state => .ok (state, [])
  | word :: rest, state => do
      match ← grammar.readWord word state with
      | .go state => read rest state
      | .stop => return (state, word :: rest)
      | .operands take => return (← rest.foldlM (fun state text => take text state) state, [])
      | .wait apply state =>
          match rest with
          | [] => .error .misuse
          | value :: rest =>
              if (Word.ofString value).isOperand then do read rest (← apply value state)
              else .error .misuse

end Grammar

end EntryStore.Command
