import EntryStore.Regex.Basic

/-!
# Flags of a pattern

Flags change how the rest of a group is read: `i` ignores case, `m` lets the line
assertions hold at every line, `s` lets the point match line ends, `R` takes carriage
returns for line ends, `u` admits characters beyond ASCII (on by default), `U` swaps greedy
and lazy repetition, and `x` ignores blanks and comments in the pattern.
-/

namespace EntryStore.Regex

/-- The flags in force. -/
structure Flags where
  ignoreCase : Bool := false
  multiLine : Bool := false
  dotMatchesLineEnd : Bool := false
  carriageReturns : Bool := false
  unicode : Bool := true
  swapGreed : Bool := false
  ignoreBlanks : Bool := false
  deriving DecidableEq, Repr, Inhabited

namespace Flags

/-- Sets or clears the flag of a letter. -/
def set? (flags : Flags) (letter : Char) (on : Bool) : Option Flags :=
  match letter with
  | 'i' => some { flags with ignoreCase := on }
  | 'm' => some { flags with multiLine := on }
  | 's' => some { flags with dotMatchesLineEnd := on }
  | 'R' => some { flags with carriageReturns := on }
  | 'u' => some { flags with unicode := on }
  | 'U' => some { flags with swapGreed := on }
  | 'x' => some { flags with ignoreBlanks := on }
  | _ => none

/-- The set of the characters that a set stands for, with or without regard to case. -/
def fold (flags : Flags) (set : CharSet) : CharSet :=
  if !flags.ignoreCase then set
  else if flags.unicode then .folded set
  else .foldedAscii set

/-- The set for a character that stands for itself. -/
def literal (flags : Flags) (c : Char) : CharSet := flags.fold (.singleton c)

/-- The set of a class that may be negated.  Case is looked at before the negation.  Without
`u`, a negation would admit parts of characters, which no text admits. -/
def finish? (flags : Flags) (negated : Bool) (set : CharSet) : Option CharSet :=
  if !negated then some (flags.fold set)
  else if flags.unicode then some (.compl (flags.fold set))
  else none

/-- The set for the point.  Without `u` it would match parts of characters, which no text
admits. -/
def dot? (flags : Flags) : Option CharSet :=
  if !flags.unicode then none
  else if flags.dotMatchesLineEnd then some (.compl .empty)
  else if flags.carriageReturns then some (.compl (.ranges [('\n', '\n'), ('\r', '\r')]))
  else some (.compl (.singleton '\n'))

/-- The assertion for `^`. -/
def caret (flags : Flags) : Assertion :=
  if !flags.multiLine then .textStart
  else if flags.carriageReturns then .crlfLineStart
  else .lineStart

/-- The assertion for `$`. -/
def dollar (flags : Flags) : Assertion :=
  if !flags.multiLine then .textEnd
  else if flags.carriageReturns then .crlfLineEnd
  else .lineEnd

/-- The assertion for a word edge. -/
def edge (flags : Flags) (edge : WordEdge) : Assertion :=
  if flags.unicode then .wordEdge edge else .asciiWordEdge edge

/-- The set for the letter of a class such as `\d`; an upper-case letter means the complement,
which needs `u`. -/
def class? (flags : Flags) (letter : Char) : Option CharSet :=
  let pick := fun (unicode ascii : CharSet) => if flags.unicode then unicode else ascii
  let complement := fun (set : CharSet) => if flags.unicode then some (CharSet.compl set) else none
  match letter with
  | 'd' => some (pick .digit .asciiDigit)
  | 's' => some (pick .space .asciiSpace)
  | 'w' => some (pick .word .asciiWord)
  | 'D' => complement .digit
  | 'S' => complement .space
  | 'W' => complement .word
  | _ => none

end Flags

/-- The rest of a pattern after a comment. -/
def skipComment : List Char → List Char
  | [] => []
  | '\n' :: rest => rest
  | _ :: rest => skipComment rest

/-- The rest of a pattern after the blanks and comments in front.  The fuel bounds their
number. -/
def skipBlanks : (fuel : Nat) → List Char → List Char
  | 0, text => text
  | _ + 1, [] => []
  | fuel + 1, c :: rest =>
      if Text.isBlank c then skipBlanks fuel rest
      else if c = '#' then skipBlanks fuel (skipComment rest)
      else c :: rest

/-- The rest of a pattern after what the flags ignore. -/
def Flags.skip (flags : Flags) (text : List Char) : List Char :=
  if flags.ignoreBlanks then skipBlanks text.length text else text

@[simp] theorem Flags.skip_of_not_ignoreBlanks {flags : Flags} (off : flags.ignoreBlanks = false)
    (text : List Char) : flags.skip text = text := by
  simp [Flags.skip, off]

end EntryStore.Regex
