import EntryStore.Text.Word
import EntryStore.Text.Digit
import EntryStore.Text.Blank
import EntryStore.Text.CaseFold

/-!
# Sets of characters

What a single position of a regular expression admits, as an expression over ranges and
the classes of Unicode.
-/

namespace EntryStore

/-- A set of characters. -/
inductive CharSet where
  | empty
  | range (low high : Char)
  /-- decimal digits of every script -/
  | digit
  /-- characters of words -/
  | word
  /-- white space -/
  | space
  | compl (set : CharSet)
  | union (left right : CharSet)
  | inter (left right : CharSet)
  | diff (left right : CharSet)
  | symmDiff (left right : CharSet)
  /-- the characters that differ from a member in case only -/
  | folded (set : CharSet)
  /-- the same for ASCII letters alone -/
  | foldedAscii (set : CharSet)
  deriving DecidableEq, Repr, Inhabited

namespace CharSet

/-- The other case of an ASCII letter. -/
def swapAsciiCase (c : Char) : Char := if c.isUpper then c.toLower else c.toUpper

/-- Membership. -/
def contains : CharSet → Char → Bool
  | .empty, _ => false
  | .range low high, c => low ≤ c && c ≤ high
  | .digit, c => Text.isDecimalDigit c
  | .word, c => Text.isWordChar c
  | .space, c => Text.isBlank c
  | .compl set, c => !set.contains c
  | .union left right, c => left.contains c || right.contains c
  | .inter left right, c => left.contains c && right.contains c
  | .diff left right, c => left.contains c && !right.contains c
  | .symmDiff left right, c => left.contains c != right.contains c
  | .folded set, c => (Text.caseVariants c).any set.contains
  | .foldedAscii set, c => set.contains c || set.contains (swapAsciiCase c)

/-- The set of one character. -/
def singleton (c : Char) : CharSet := .range c c

@[simp] theorem contains_singleton (c d : Char) : (singleton c).contains d = (d == c) := by
  rw [Bool.eq_iff_iff]
  simp only [singleton, contains, Bool.and_eq_true, decide_eq_true_eq, beq_iff_eq]
  constructor
  · intro ⟨below, above⟩
    exact Char.le_antisymm above below
  · intro equal
    subst equal
    exact ⟨Char.le_refl _, Char.le_refl _⟩

/-- The union of several sets. -/
def unions (sets : List CharSet) : CharSet := sets.foldl .union .empty

/-- Ranges of ASCII characters. -/
def ranges (bounds : List (Char × Char)) : CharSet :=
  unions (bounds.map fun (low, high) => .range low high)

def asciiDigit : CharSet := .range '0' '9'

def asciiWord : CharSet := ranges [('0', '9'), ('A', 'Z'), ('_', '_'), ('a', 'z')]

def asciiSpace : CharSet := ranges [('\t', '\r'), (' ', ' ')]

/-- The ASCII classes that are known by a name. -/
def named : List (String × CharSet) :=
  [("alnum", ranges [('0', '9'), ('A', 'Z'), ('a', 'z')]),
   ("alpha", ranges [('A', 'Z'), ('a', 'z')]),
   ("ascii", ranges [('\x00', '\x7f')]),
   ("blank", ranges [('\t', '\t'), (' ', ' ')]),
   ("cntrl", ranges [('\x00', '\x1f'), ('\x7f', '\x7f')]),
   ("digit", asciiDigit),
   ("graph", ranges [('!', '~')]),
   ("lower", ranges [('a', 'z')]),
   ("print", ranges [(' ', '~')]),
   ("punct", ranges [('!', '/'), (':', '@'), ('[', '\x60'), ('\x7b', '~')]),
   ("space", asciiSpace),
   ("upper", ranges [('A', 'Z')]),
   ("word", asciiWord),
   ("xdigit", ranges [('0', '9'), ('A', 'F'), ('a', 'f')])]

end CharSet

end EntryStore
