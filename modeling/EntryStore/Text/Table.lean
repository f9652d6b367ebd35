import EntryStore.Text.Hex

/-!
# Packed tables of code points

Character properties are stored as text: hexadecimal words between blanks, decoded once.
A `CodeSet` is a set of code points given by its boundaries; a `CodeMap` is a partial
function given by runs that shift several code points by the same distance.
-/

namespace EntryStore.Text

/-- The numbers of a packed table.  Whatever is no digit ends a word. -/
def hexWords (table : String) : Array Nat :=
  let (words, open?) := table.toList.foldl (fun (words, open?) c =>
    match hexDigit? c, open? with
    | some digit, some value => (words, some (16 * value + digit))
    | some digit, none => (words, some digit)
    | none, some value => (words.push value, none)
    | none, none => (words, none)) ((#[], none) : Array Nat × Option Nat)
  match open? with
  | some value => words.push value
  | none => words

/-- How many of the ascending `keys` are at most `code`, given that those before `low` are
and those from `low + span` on are not; the span halves at each step. -/
def rankFrom (keys : Array Nat) (code : Nat) : (fuel low span : Nat) → Nat
  | 0, low, _ => low
  | fuel + 1, low, span =>
      if span = 0 then low
      else
        let middle := low + span / 2
        if keys.getD middle 0 ≤ code then rankFrom keys code fuel (middle + 1) (span - span / 2 - 1)
        else rankFrom keys code fuel low (span / 2)

/-- How many of the ascending `keys` are at most `code`. -/
def rank (keys : Array Nat) (code : Nat) : Nat :=
  rankFrom keys code (keys.size.log2 + 1) 0 keys.size

/-- A set of code points.  Its ascending boundaries enter and leave the set by turns. -/
structure CodeSet where
  boundaries : Array Nat
  deriving Repr

namespace CodeSet

/-- The set packed in a table of boundaries. -/
def ofTable (table : String) : CodeSet := ⟨hexWords table⟩

def contains (set : CodeSet) (c : Char) : Bool := rank set.boundaries c.toNat % 2 == 1

end CodeSet

/-- `count` code points, `step` apart from `start` on, are shifted to `target` and on. -/
structure CodeRun where
  start : Nat
  count : Nat
  step : Nat
  target : Nat
  deriving Repr, Inhabited

namespace CodeRun

/-- The image of a code point of the run. -/
def image? (run : CodeRun) (code : Nat) : Option Nat :=
  if run.start ≤ code ∧ code < run.start + run.count * run.step ∧
      (code - run.start) % run.step = 0 then
    some (run.target + (code - run.start))
  else none

/-- The code point of the run that has the given image. -/
def source? (run : CodeRun) (code : Nat) : Option Nat :=
  if run.target ≤ code ∧ code < run.target + run.count * run.step ∧
      (code - run.target) % run.step = 0 then
    some (run.start + (code - run.target))
  else none

end CodeRun

/-- A partial function on code points, as runs in ascending order of their starts. -/
structure CodeMap where
  runs : Array CodeRun
  starts : Array Nat
  deriving Repr

namespace CodeMap

/-- Groups words by four into runs. -/
def runsOfWords : List Nat → List CodeRun
  | start :: count :: step :: target :: rest => ⟨start, count, step, target⟩ :: runsOfWords rest
  | _ => []

/-- The map packed in a table of runs. -/
def ofTable (table : String) : CodeMap :=
  let runs := (runsOfWords (hexWords table).toList).toArray
  ⟨runs, runs.map (·.start)⟩

/-- The image of a code point.  Runs whose steps interleave start close to each other, so
the four runs up to the code point are tried. -/
def find? (map : CodeMap) (code : Nat) : Option Nat :=
  let upTo := rank map.starts code
  (List.range 4).findSome? fun back =>
    if back < upTo then (map.runs.getD (upTo - 1 - back) default).image? code else none

/-- All code points with the given image. -/
def sources (map : CodeMap) (code : Nat) : List Nat :=
  map.runs.toList.filterMap (·.source? code)

/-- The code points with an image, each with its image. -/
def toList (map : CodeMap) : List (Nat × Nat) :=
  map.runs.toList.flatMap fun run =>
    (List.range run.count).map fun i => (run.start + i * run.step, run.target + i * run.step)

end CodeMap

end EntryStore.Text
