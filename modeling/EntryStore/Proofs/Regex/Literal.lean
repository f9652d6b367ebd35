import EntryStore.Pattern
import EntryStore.Regex.Parser
import EntryStore.Proofs.Regex.Meaning
import Mathlib.Data.List.Induction

/-!
# Escaped literals

An escaped literal is read as one item for each of its characters, whatever the characters
are, and an anchoring adds assertions at the ends.  `isMatch_anchor_escape` says what the
resulting patterns match: the literal itself, at the place that the anchoring asks for.
-/

namespace EntryStore

/-- The texts in which an anchoring finds a literal. -/
def Anchoring.Covers (anchoring : Anchoring) (literal cell : List Char) : Prop :=
  match anchoring with
  | .contains => literal <:+: cell
  | .word => ∃ before after, cell = before ++ literal ++ after ∧
      (Assertion.wordEdge .boundary).holds before.getLast? (literal ++ after).head? = true ∧
      (Assertion.wordEdge .boundary).holds (before ++ literal).getLast? after.head? = true
  | .start => literal <+: cell
  | .finish => literal <:+ cell
  | .full => cell = literal

namespace Regex

/-! ## Reading -/

/-- The item for a character that stands for itself. -/
def charItem (c : Char) : Item := .expr ⟨.chars (.singleton c), 0⟩

/-- The item for an assertion. -/
def checkItem (assertion : Assertion) : Item := .expr ⟨.check assertion, 0⟩

/-- The items of a literal, latest first. -/
def charItems (literal : List Char) : List Item := (literal.map charItem).reverse

/-- The state of reading outside of groups, with a single alternative and no flags. -/
def flat (items : List Item) : Reading := ⟨⟨none, {}, [], items⟩, [], 0, []⟩

/-- What an anchoring asserts in front of its pattern. -/
def opening : Anchoring → Option Assertion
  | .word => some (.wordEdge .boundary)
  | .start | .full => some .textStart
  | .contains | .finish => none

/-- What an anchoring asserts behind its pattern. -/
def closing : Anchoring → Option Assertion
  | .word => some (.wordEdge .boundary)
  | .finish | .full => some .textEnd
  | .contains | .start => none

/-- How the assertion in front is written. -/
def openingText : Anchoring → List Char
  | .word => ['\\', 'b']
  | .start | .full => ['^']
  | .contains | .finish => []

/-- How the assertion behind is written. -/
def closingText : Anchoring → List Char
  | .word => ['\\', 'b']
  | .finish | .full => ['$']
  | .contains | .start => []

/-- The items of an anchored literal, latest first. -/
def anchoredItems (anchoring : Anchoring) (literal : List Char) : List Item :=
  ((closing anchoring).map checkItem).toList ++
    (charItems literal ++ ((opening anchoring).map checkItem).toList)

theorem isEscapable_of_mem_operators {c : Char} (operator : c ∈ Pattern.operators) :
    isEscapable c = true := by
  have every : Pattern.operators.all isEscapable = true := by decide
  exact List.all_eq_true.mp every c operator

theorem token_escaped {c : Char} (operator : c ∈ Pattern.operators) (items : List Item)
    (rest : List Char) :
    token (flat items) '\\' (c :: rest) = some (flat (charItem c :: items), rest) := by
  have escapable := isEscapable_of_mem_operators operator
  simp only [token, escapePrimitive, escapable, if_true]
  rfl

theorem token_plain {c : Char} (plain : c ∉ Pattern.operators) (items : List Item)
    (rest : List Char) :
    token (flat items) c rest = some (flat (charItem c :: items), rest) := by
  simp only [Pattern.operators, List.mem_cons, List.not_mem_nil, or_false, not_or] at plain
  unfold token
  split
  all_goals first
    | rfl
    | simp at plain

theorem tokens_nil (fuel : Nat) (items : List Item) :
    tokens (fuel + 1) (flat items) [] = some (flat items) := rfl

theorem tokens_cons (fuel : Nat) (items : List Item) (c : Char) (rest : List Char) :
    tokens (fuel + 1) (flat items) (c :: rest) =
      (token (flat items) c rest).bind fun next => tokens fuel next.1 next.2 := rfl

theorem tokens_escapeChar (fuel : Nat) (items : List Item) (c : Char) (rest : List Char) :
    tokens (fuel + 1) (flat items) (Pattern.escapeChar c ++ rest) =
      tokens fuel (flat (charItem c :: items)) rest := by
  unfold Pattern.escapeChar
  split
  · next operator =>
      rw [List.cons_append, List.singleton_append, tokens_cons, token_escaped operator]
      rfl
  · next plain =>
      rw [List.singleton_append, tokens_cons, token_plain plain]
      rfl

/-- Each character of an escaped literal is read as one item. -/
theorem tokens_escape (fuel : Nat) (literal : List Char) (items : List Item)
    (rest : List Char) :
    tokens (fuel + literal.length) (flat items)
        (literal.flatMap Pattern.escapeChar ++ rest) =
      tokens fuel (flat (charItems literal ++ items)) rest := by
  induction literal generalizing items with
  | nil => rfl
  | cons c literal ih =>
      rw [List.flatMap_cons, List.append_assoc, List.length_cons, ← Nat.add_assoc,
        tokens_escapeChar, ih]
      simp [charItems]

theorem length_le_length_escape (literal : List Char) :
    literal.length ≤ (literal.flatMap Pattern.escapeChar).length := by
  induction literal with
  | nil => exact Nat.le_refl _
  | cons c literal ih =>
      have written : 1 ≤ (Pattern.escapeChar c).length := by
        unfold Pattern.escapeChar
        split <;> simp
      rw [List.flatMap_cons, List.length_append, List.length_cons]
      omega

theorem tokens_caret (fuel : Nat) (items : List Item) (rest : List Char) :
    tokens (fuel + 1) (flat items) ('^' :: rest) =
      tokens fuel (flat (checkItem .textStart :: items)) rest := rfl

theorem tokens_dollar (fuel : Nat) (items : List Item) (rest : List Char) :
    tokens (fuel + 1) (flat items) ('$' :: rest) =
      tokens fuel (flat (checkItem .textEnd :: items)) rest := rfl

/-- What follows must not look like the braces of a named word edge. -/
theorem tokens_boundary (fuel : Nat) (items : List Item) {rest : List Char}
    (plain : rest.head? ≠ some '\x7b') :
    tokens (fuel + 1) (flat items) ('\\' :: 'b' :: rest) =
      tokens fuel (flat (checkItem (.wordEdge .boundary) :: items)) rest := by
  have edge : boundaryEscape {} rest = some (.assertion (.wordEdge .boundary), rest) := by
    unfold boundaryEscape
    split
    · simp at plain
    · rfl
  have token : token (flat items) '\\' ('b' :: rest) =
      some (flat (checkItem (.wordEdge .boundary) :: items), rest) := by
    change ((boundaryEscape {} rest).bind fun read => _) = _
    rw [edge]
    rfl
  rw [tokens_cons, token]
  rfl

theorem head?_escape_append (literal : List Char) {rest : List Char}
    (plain : rest.head? ≠ some '\x7b') :
    (literal.flatMap Pattern.escapeChar ++ rest).head? ≠ some '\x7b' := by
  cases literal with
  | nil => exact plain
  | cons c literal =>
      rw [List.flatMap_cons]
      unfold Pattern.escapeChar
      split
      · simp
      · next noOperator =>
          intro brace
          simp only [List.cons_append, List.head?_cons, Option.some.injEq] at brace
          subst brace
          exact noOperator (by decide)

theorem nestingOf_le_one {nestings : List Nat} (shallow : ∀ nesting ∈ nestings, nesting = 0) :
    nestingOf nestings ≤ 1 := by
  have level : nestings.foldl max 0 = 0 := by
    induction nestings with
    | nil => rfl
    | cons nesting nestings ih =>
        obtain ⟨rfl, others⟩ := List.forall_mem_cons.mp shallow
        exact ih others
  match nestings with
  | [] => exact Nat.zero_le _
  | [nesting] => simp [nestingOf, shallow nesting]
  | first :: second :: rest => exact Nat.succ_le_succ (Nat.le_of_eq level)

/-- More fuel than needed does not change what is read. -/
theorem tokens_of_le {fuel more : Nat} {state final : Reading} {text : List Char}
    (enough : fuel ≤ more) (read : tokens fuel state text = some final) :
    tokens more state text = some final := by
  induction fuel generalizing more state text with
  | zero => simp [tokens] at read
  | succ fuel ih =>
      obtain ⟨more, rfl⟩ : ∃ less, more = less + 1 := ⟨more - 1, by omega⟩
      rw [tokens] at read ⊢
      split at read
      · exact read
      · next c rest skipped =>
          obtain ⟨next, first, later⟩ := Option.bind_eq_some_iff.mp read
          exact Option.bind_eq_some_iff.mpr ⟨next, first, ih (by omega) later⟩

/-- A pattern whose tokens are items in a row stands for their sequence. -/
theorem parse?_of_tokens {pattern : String} {items : List Item} (fuel : Nat)
    (enough : fuel ≤ pattern.toList.length + 1)
    (read : tokens fuel (flat []) pattern.toList = some (flat items))
    (shallow : ∀ item ∈ items, item.nesting = 0) :
    parse? pattern = some (Group.sequence items) := by
  have depth : (flat items).group.content.nesting ≤ maxNesting := by
    have single : nestingOf (items.map Item.nesting) ≤ 1 := by
      apply nestingOf_le_one
      intro nesting member
      obtain ⟨item, itemMember, rfl⟩ := List.mem_map.mp member
      exact shallow item itemMember
    exact Nat.le_trans single (by decide)
  change ((tokens (pattern.toList.length + 1) (flat []) pattern.toList).bind fun state => _) = _
  rw [tokens_of_le enough read]
  exact if_pos ⟨rfl, depth⟩

theorem nesting_of_mem_anchoredItems {anchoring : Anchoring} {literal : List Char} {item : Item}
    (member : item ∈ anchoredItems anchoring literal) : item.nesting = 0 := by
  simp only [anchoredItems, charItems, List.mem_append, List.mem_reverse, List.mem_map,
    Option.mem_toList, Option.map_eq_some_iff] at member
  rcases member with ⟨_, _, rfl⟩ | ⟨_, _, rfl⟩ | ⟨_, _, rfl⟩ <;> rfl

theorem toList_anchor_escape (anchoring : Anchoring) (literal : String) :
    (anchoring.anchor (Pattern.escape literal)).toList =
      openingText anchoring ++
        (literal.toList.flatMap Pattern.escapeChar ++ closingText anchoring) := by
  cases anchoring <;>
    simp [Anchoring.anchor, Pattern.escape, openingText, closingText]

/-- The assertion in front of an anchored pattern is read as its first item. -/
theorem tokens_opening (anchoring : Anchoring) {fuel : Nat} {rest : List Char} {final : Reading}
    (plain : rest.head? ≠ some '\x7b')
    (read : tokens fuel (flat ((opening anchoring).map checkItem).toList) rest = some final) :
    tokens (fuel + (openingText anchoring).length) (flat []) (openingText anchoring ++ rest) =
      some final := by
  cases anchoring with
  | contains => exact read
  | word =>
      refine (tokens_boundary (fuel + 1) [] plain).trans ?_
      exact tokens_of_le (Nat.le_succ fuel) read
  | start => exact (tokens_caret fuel [] rest).trans read
  | finish => exact read
  | full => exact (tokens_caret fuel [] rest).trans read

/-- The assertion behind an anchored pattern is read as its last item. -/
theorem tokens_closing (anchoring : Anchoring) (items : List Item) :
    tokens ((closingText anchoring).length + 1) (flat items) (closingText anchoring) =
      some (flat (((closing anchoring).map checkItem).toList ++ items)) := by
  cases anchoring with
  | contains => exact tokens_nil 0 items
  | word => exact tokens_boundary 2 items (by decide)
  | start => exact tokens_nil 0 items
  | finish => exact tokens_dollar 1 items []
  | full => exact tokens_dollar 1 items []

/-- An anchored literal is always a well-formed pattern. -/
theorem parse?_anchor_escape (anchoring : Anchoring) (literal : String) :
    parse? (anchoring.anchor (Pattern.escape literal)) =
      some (Group.sequence (anchoredItems anchoring literal.toList)) := by
  have noBrace : (closingText anchoring).head? ≠ some '\x7b' := by
    cases anchoring <;> decide
  refine parse?_of_tokens ((closingText anchoring).length + 1 + literal.toList.length +
    (openingText anchoring).length) ?_ ?_ fun item => nesting_of_mem_anchoredItems
  · have body := length_le_length_escape literal.toList
    rw [toList_anchor_escape, List.length_append, List.length_append]
    omega
  · rw [toList_anchor_escape]
    apply tokens_opening anchoring (head?_escape_append _ noBrace)
    rw [tokens_escape]
    exact tokens_closing anchoring _

/-! ## Matching -/

theorem matches_sequence_cons {text : List Char} (part : Part) (items : List Item)
    {start finish : Nat} :
    Matches text (Group.sequence (.expr part :: items)) start finish ↔
      ∃ middle, Matches text (Group.sequence items) start middle ∧
        Matches text part.regex middle finish := by
  cases items with
  | nil =>
      constructor
      · intro matched
        exact ⟨start, rfl, matched⟩
      · rintro ⟨middle, same, matched⟩
        cases same
        exact matched
  | cons item items => exact Iff.rfl

theorem cons_prefix_drop_iff {text literal : List Char} {c : Char} {start : Nat} :
    c :: literal <+: text.drop start ↔
      text[start]? = some c ∧ literal <+: text.drop (start + 1) := by
  rw [← List.head?_drop, ← List.tail_drop]
  cases text.drop start with
  | nil => simp
  | cons d rest => simp [List.cons_prefix_cons, eq_comm]

/-- The items of a literal match where the literal stands. -/
theorem matches_sequence_charItems {text : List Char} (literal : List Char) (items : List Item)
    {start finish : Nat} :
    Matches text (Group.sequence (charItems literal ++ items)) start finish ↔
      ∃ middle, Matches text (Group.sequence items) start middle ∧
        literal <+: text.drop middle ∧ finish = middle + literal.length := by
  induction literal generalizing items with
  | nil => simp [charItems]
  | cons c literal ih =>
      have split : charItems (c :: literal) ++ items =
          charItems literal ++ charItem c :: items := by
        simp [charItems]
      rw [split, ih]
      simp only [charItem, matches_sequence_cons, cons_prefix_drop_iff, List.length_cons]
      constructor
      · rintro ⟨_, ⟨middle, initial, rfl, d, found, same⟩, later, rfl⟩
        rw [CharSet.contains_singleton, beq_iff_eq] at same
        exact ⟨middle, initial, ⟨same ▸ found, later⟩, by omega⟩
      · rintro ⟨middle, initial, ⟨found, later⟩, rfl⟩
        have same : (CharSet.singleton c).contains c = true := by
          rw [CharSet.contains_singleton, beq_self_eq_true]
        exact ⟨middle + 1, ⟨middle, initial, rfl, c, found, same⟩, later, by omega⟩

theorem matches_sequence_opening {text : List Char} (assertion? : Option Assertion)
    {start finish : Nat} (inside : start ≤ text.length) :
    Matches text (Group.sequence (assertion?.map checkItem).toList) start finish ↔
      start = finish ∧ ∀ assertion ∈ assertion?,
        assertion.holds (before text start) text[start]? = true := by
  cases assertion? with
  | none => simp [Group.sequence, Matches]
  | some assertion => simp [checkItem, Group.sequence, Matches, inside]

theorem matches_sequence_closing {text : List Char} (assertion? : Option Assertion)
    (items : List Item) {start finish : Nat} (inside : start ≤ text.length) :
    Matches text (Group.sequence ((assertion?.map checkItem).toList ++ items)) start finish ↔
      Matches text (Group.sequence items) start finish ∧ ∀ assertion ∈ assertion?,
        assertion.holds (before text finish) text[finish]? = true := by
  cases assertion? with
  | none => simp
  | some assertion =>
      simp only [checkItem, Option.map_some, Option.toList_some, List.cons_append,
        List.nil_append, matches_sequence_cons, Option.mem_def, Option.some.injEq,
        forall_eq']
      constructor
      · rintro ⟨_, matched, rfl, _, holds⟩
        exact ⟨matched, holds⟩
      · rintro ⟨matched, holds⟩
        exact ⟨finish, matched, rfl, matched.le_length inside, holds⟩

theorem before_length_append (front rest : List Char) :
    before (front ++ rest) front.length = front.getLast? := by
  cases front using List.reverseRecOn with
  | nil => rfl
  | append_singleton front c => simp [before]

theorem getElem?_length_append (front rest : List Char) :
    (front ++ rest)[front.length]? = rest.head? := by
  rw [List.getElem?_append_right (Nat.le_refl _), Nat.sub_self, List.head?_eq_getElem?]

/-- An anchored literal matches a text that holds the literal with the assertions at its
ends. -/
theorem isMatch_anchoredItems (anchoring : Anchoring) (literal : List Char) (cell : String) :
    (Group.sequence (anchoredItems anchoring literal)).isMatch cell = true ↔
      ∃ front rest, cell.toList = front ++ literal ++ rest ∧
        (∀ assertion ∈ opening anchoring,
          assertion.holds front.getLast? (literal ++ rest).head? = true) ∧
        ∀ assertion ∈ closing anchoring,
          assertion.holds (front ++ literal).getLast? rest.head? = true := by
  rw [isMatch_iff]
  constructor
  · rintro ⟨start, inside, finish, matched⟩
    rw [anchoredItems, matches_sequence_closing _ _ inside, matches_sequence_charItems] at matched
    obtain ⟨⟨middle, initial, ⟨rest, standing⟩, rfl⟩, closed⟩ := matched
    obtain ⟨rfl, opened⟩ := (matches_sequence_opening _ inside).mp initial
    obtain ⟨front, text, rfl⟩ :
        ∃ front, cell.toList = front ++ (literal ++ rest) ∧ front.length = start := by
      refine ⟨cell.toList.take start, ?_, List.length_take_of_le inside⟩
      rw [standing, List.take_append_drop]
    refine ⟨front, rest, by rw [text, List.append_assoc], ?_, ?_⟩
    · intro assertion member
      have holds := opened assertion member
      rwa [text, before_length_append, getElem?_length_append] at holds
    · intro assertion member
      have holds := closed assertion member
      rwa [text, ← List.append_assoc, ← List.length_append, before_length_append,
        getElem?_length_append] at holds
  · rintro ⟨front, rest, text, opened, closed⟩
    have inside : front.length ≤ cell.toList.length := by
      rw [text, List.append_assoc, List.length_append]
      exact Nat.le_add_right _ _
    refine ⟨front.length, inside, front.length + literal.length, ?_⟩
    rw [anchoredItems, matches_sequence_closing _ _ inside, matches_sequence_charItems]
    refine ⟨⟨front.length, (matches_sequence_opening _ inside).mpr ⟨rfl, ?_⟩, ?_, rfl⟩, ?_⟩
    · intro assertion member
      rw [text, List.append_assoc, before_length_append, getElem?_length_append]
      exact opened assertion member
    · rw [text, List.append_assoc, List.drop_left]
      exact List.prefix_append _ _
    · intro assertion member
      rw [text, ← List.length_append, before_length_append, getElem?_length_append]
      exact closed assertion member

/-- Whether the assertions hold is a matter of what stands in front of the literal and behind
it. -/
theorem isMatch_anchoredItems_iff_covers (anchoring : Anchoring) (literal : List Char)
    (cell : String) :
    (Group.sequence (anchoredItems anchoring literal)).isMatch cell = true ↔
      anchoring.Covers literal cell.toList := by
  rw [isMatch_anchoredItems]
  cases anchoring with
  | contains =>
      constructor
      · rintro ⟨front, rest, text, _, _⟩
        exact ⟨front, rest, text.symm⟩
      · rintro ⟨front, rest, text⟩
        exact ⟨front, rest, text.symm, by simp [opening], by simp [closing]⟩
  | word =>
      simp only [opening, closing, Option.mem_def, Option.some.injEq, forall_eq']
      exact Iff.rfl
  | start =>
      constructor
      · rintro ⟨front, rest, text, opened, _⟩
        have empty : front = [] := by simpa [Assertion.holds] using opened .textStart rfl
        exact ⟨rest, by rw [text, empty, List.nil_append]⟩
      · rintro ⟨rest, text⟩
        exact ⟨[], rest, text.symm, by simp [opening, Assertion.holds], by simp [closing]⟩
  | finish =>
      constructor
      · rintro ⟨front, rest, text, _, closed⟩
        have empty : rest = [] := by simpa [Assertion.holds] using closed .textEnd rfl
        exact ⟨front, by rw [text, empty, List.append_nil]⟩
      · rintro ⟨front, text⟩
        exact ⟨front, [], by rw [List.append_nil, text], by simp [opening],
          by simp [closing, Assertion.holds]⟩
  | full =>
      constructor
      · rintro ⟨front, rest, text, opened, closed⟩
        have noFront : front = [] := by simpa [Assertion.holds] using opened .textStart rfl
        have noRest : rest = [] := by simpa [Assertion.holds] using closed .textEnd rfl
        change cell.toList = literal
        rw [text, noFront, noRest, List.nil_append, List.append_nil]
      · intro text
        exact ⟨[], [], by rw [List.nil_append, List.append_nil]; exact text,
          by simp [opening, Assertion.holds], by simp [closing, Assertion.holds]⟩

/-- Escaped literals are always well-formed patterns, and match literally: the whole cell, its
start, its end, a word of it or any part of it, as the anchoring asks. -/
theorem isMatch_anchor_escape (anchoring : Anchoring) (literal cell : String) :
    ∃ regex, parse? (anchoring.anchor (Pattern.escape literal)) = some regex ∧
      (regex.isMatch cell = true ↔ anchoring.Covers literal.toList cell.toList) := by
  refine ⟨_, parse?_anchor_escape anchoring literal, ?_⟩
  exact isMatch_anchoredItems_iff_covers anchoring literal.toList cell

/-- Under the full anchoring an escaped literal matches itself and nothing else. -/
theorem meaning?_full_escape (literal : String) :
    meaning? (Anchoring.full.anchor (Pattern.escape literal)) =
      some fun cell => cell == literal := by
  rw [meaning?, parse?_anchor_escape, Option.map_some]
  congr 1
  funext cell
  rw [Bool.eq_iff_iff, isMatch_anchoredItems_iff_covers, beq_iff_eq]
  exact String.toList_inj

end Regex

end EntryStore
