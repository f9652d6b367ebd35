import EntryStore.Proofs.Regex.Literal
import EntryStore.Proofs.Text.Utf8

/-!
# Literals within the limit of size

A pattern is refused if an automaton for it takes too many bytes.  The automata for a literal that
a cell has to match as a whole have one state for each byte of the literal and a few others, so
that literals are taken up to a certain size (`maxLiteral`) and refused beyond it.  Whatever the
size, no pattern gets another meaning than it has without the limit.
-/

namespace EntryStore

open Text (CodeSpan)

/-! ## The span of a single character -/

namespace CharSet

variable {c : Char}

theorem holds_singleton_self (c : Char) : (singleton c).holds c.toNat = true := by
  rw [holds, Char.ofNat_toNat, contains_singleton, beq_self_eq_true]

theorem eq_of_holds_singleton {code : Nat} (valid : code.isValidChar)
    (member : (singleton c).holds code = true) : code = c.toNat := by
  rw [holds, contains_singleton, beq_iff_eq] at member
  rw [← member]
  exact (Text.toNat_ofNat_of_isValidChar valid).symm

/-- A stretch that does not begin with the character has no members. -/
theorem membersBetween_of_ne {first next : Nat} (rest : List Nat)
    (differs : first < next → first ≠ c.toNat) :
    (singleton c).membersBetween (first :: next :: rest) =
      (singleton c).membersBetween (next :: rest) := by
  rw [membersBetween]
  refine if_neg fun member => ?_
  simp only [Bool.and_eq_true, decide_eq_true_eq] at member
  exact differs member.1.1 (eq_of_holds_singleton member.1.2 member.2)

theorem membersBetween_self (c : Char) (rest : List Nat) :
    (singleton c).membersBetween (c.toNat :: (c.toNat + 1) :: rest) =
      CodeSpan.cons ⟨c.toNat, c.toNat⟩ ((singleton c).membersBetween ((c.toNat + 1) :: rest)) := by
  have valid : c.toNat.isValidChar := c.valid
  rw [membersBetween]
  simp only [Nat.lt_succ_self, valid, holds_singleton_self, decide_true, Bool.and_self, if_true]
  rfl

/-- A cut that is not behind the first one comes in front. -/
theorem insertCut_of_le {cut next : Nat} {rest : List Nat} (before : cut ≤ next) :
    insertCut cut (next :: rest) = cut :: next :: rest := if_pos before

theorem insertCut_of_lt {cut next : Nat} {rest : List Nat} (behind : next < cut) :
    insertCut cut (next :: rest) = next :: insertCut cut rest := if_neg (Nat.not_le_of_lt behind)

/-- Of a cut that is put behind two neighbours it makes no difference whether it is the same as the
second one. -/
theorem insertCut_behind {cut code : Nat} {rest : List Nat} (behind : code < cut)
    (sorted : ∀ next ∈ rest.head?, cut ≤ next) :
    insertCut cut (code :: (code + 1) :: rest) = code :: (code + 1) :: cut :: rest := by
  rw [insertCut_of_lt behind]
  rcases Nat.lt_or_eq_of_le (Nat.succ_le_of_lt behind) with later | rfl
  · rw [insertCut_of_lt later]
    cases rest with
    | nil => rfl
    | cons next rest => rw [insertCut_of_le (sorted next rfl)]
  · rw [insertCut_of_le (Nat.le_refl _)]

theorem cuts_low {code : Nat} (low : code < 0xD800) :
    (outerCuts ++ [code, code + 1]).foldr insertCut [] =
      [0, code, code + 1, 0xD800, 0xE000, 0x110000] := by
  have both : insertCut code (insertCut (code + 1) []) = [code, code + 1] :=
    insertCut_of_le (Nat.le_succ code)
  simp only [outerCuts, List.cons_append, List.nil_append, List.foldr_cons, List.foldr_nil, both]
  rw [insertCut_behind (by omega) (by simp), insertCut_behind (by omega) (by simp),
    insertCut_behind low (by simp), insertCut_of_le (Nat.zero_le _)]

theorem cuts_high {code : Nat} (high : 0xE000 ≤ code) (inside : code < 0x110000) :
    (outerCuts ++ [code, code + 1]).foldr insertCut [] =
      [0, 0xD800, 0xE000, code, code + 1, 0x110000] := by
  have both : insertCut code (insertCut (code + 1) []) = [code, code + 1] :=
    insertCut_of_le (Nat.le_succ code)
  simp only [outerCuts, List.cons_append, List.nil_append, List.foldr_cons, List.foldr_nil, both]
  rw [insertCut_behind inside (by simp), insertCut_of_le high, insertCut_of_le (by omega),
    insertCut_of_le (Nat.zero_le _)]

/-- A single character is a span of its own. -/
theorem spans_singleton (c : Char) : (singleton c).spans = [⟨c.toNat, c.toNat⟩] := by
  have valid : c.toNat.isValidChar := c.valid
  have cuts : (singleton c).cuts = [c.toNat, c.toNat + 1] := rfl
  rw [spans, cuts]
  rcases valid with low | ⟨high, inside⟩
  · rw [cuts_low low, membersBetween_of_ne _ (by omega), membersBetween_self,
      membersBetween_of_ne _ (by omega), membersBetween_of_ne _ (by omega),
      membersBetween_of_ne _ (by omega)]
    rfl
  · rw [cuts_high high inside, membersBetween_of_ne _ (by omega), membersBetween_of_ne _ (by omega),
      membersBetween_of_ne _ (by omega), membersBetween_self, membersBetween_of_ne _ (by omega)]
    rfl

end CharSet

/-! ## The outline of an anchored literal -/

namespace Regex

/-- A character is put in front of the literal behind it. -/
theorem outlineBefore_charItem (c : Char) (rest : List Outline) :
    outlineBefore false (.chars (.singleton c)) rest = Outline.consPart (.literal [c]) rest := by
  rw [outlineBefore, CharSet.spans_singleton]
  simp [Outline.ofSpans]

/-- The outline of items in a row: what the last one adds stands behind the others. -/
theorem outlineBefore_sequence_cons (part : Part) (items : List Item) (rest : List Outline) :
    outlineBefore false (Group.sequence (.expr part :: items)) rest =
      outlineBefore false (Group.sequence items) (outlineBefore false part.regex rest) := by
  cases items with
  | nil => rfl
  | cons item items => rfl

/-- The parts that a literal makes in a sequence. -/
def literalParts (literal : List Char) : List Outline :=
  if literal.isEmpty then [] else [.literal literal]

/-- The items of a literal are one part in front of an assertion, if any. -/
theorem outlineBefore_charItems (literal : List Char) (items : List Item) (assertion : Assertion) :
    outlineBefore false (Group.sequence (charItems literal ++ items)) [.check assertion] =
      outlineBefore false (Group.sequence items) (literalParts literal ++ [.check assertion]) := by
  induction literal generalizing items with
  | nil => rfl
  | cons c literal ih =>
      have split : charItems (c :: literal) ++ items =
          charItems literal ++ charItem c :: items := by
        simp [charItems]
      rw [split, ih, charItem, outlineBefore_sequence_cons, outlineBefore_charItem]
      cases literal <;> rfl

/-- The outline of a literal between two assertions. -/
def literalOutline (literal : List Char) : Outline :=
  .sequence (.check .textStart :: (literalParts literal ++ [.check .textEnd]))

theorem outline_anchoredItems (literal : List Char) :
    (Group.sequence (anchoredItems .full literal)).outline = literalOutline literal := by
  have parts : outlineBefore false (Group.sequence (anchoredItems .full literal)) [] =
      .check .textStart :: (literalParts literal ++ [.check .textEnd]) := by
    change outlineBefore false (Group.sequence (checkItem .textEnd :: (charItems literal ++
      [checkItem .textStart]))) [] = _
    rw [checkItem, outlineBefore_sequence_cons]
    exact outlineBefore_charItems literal [checkItem .textStart] .textEnd
  rw [outline, parts]
  cases literal <;> rfl

end Regex

/-! ## The states of its automata -/

namespace Growth

theorem repeated_one (step : Growth → Option Growth) (growth : Growth) :
    growth.repeated step 1 = step growth := by
  rw [repeated]
  cases step growth <;> rfl

theorem repeated_add (step : Growth → Option Growth) (first second : Nat) (growth : Growth) :
    growth.repeated step (first + second) =
      (growth.repeated step first).bind (repeated step second) := by
  induction first generalizing growth with
  | zero => rw [Nat.zero_add, repeated, Option.bind_some]
  | succ first ih =>
      rw [Nat.succ_add, repeated, repeated]
      cases step growth with
      | none => rfl
      | some growth => exact ih growth

/-- The first and the last state, and those between them. -/
theorem repeated_between (step : Growth → Option Growth) (count : Nat) (growth : Growth) :
    growth.repeated step (count + 2) = ((step growth).bind (repeated step count)).bind step := by
  rw [Nat.add_comm, Nat.add_assoc 1 1 count, Nat.add_comm 1 count, repeated_add, repeated_one,
    Option.bind_assoc]
  refine congrArg _ (funext fun growth => ?_)
  rw [repeated_add]
  exact congrArg _ (funext (repeated_one step))

/-- As many states are made as there are bytes for. -/
theorem isSome_repeated_addState (count : Nat) (growth : Growth) :
    (growth.repeated addState count).isSome = true ↔
      count = 0 ∨ growth.bytes + stateBytes * count ≤ maxBytes := by
  induction count generalizing growth with
  | zero => simp [repeated]
  | succ count ih =>
      rw [repeated, addState, add]
      split
      · next added room =>
          split at room
          · next fits =>
              cases room
              rw [ih]
              simp only [stateBytes] at fits ⊢
              omega
          · cases room
      · next room =>
          split at room
          · cases room
          · next fits =>
              simp only [stateBytes] at fits ⊢
              simp
              omega

end Growth

namespace Outline

open Growth (addState repeated_add repeated_between repeated_one)

variable {backward : Bool} {growth : Growth}

theorem build_check (assertion : Assertion) (growth : Growth) :
    build backward (.check assertion) growth = growth.repeated addState 1 :=
  (repeated_one addState growth).symm

/-- In either direction, parts have as many states as the first and the others together. -/
theorem buildParts_cons {part : Outline} {parts : List Outline} {first others : Nat}
    (one : ∀ growth, build backward part growth = growth.repeated addState first)
    (rest : ∀ growth, buildParts backward parts growth = growth.repeated addState others)
    (growth : Growth) :
    buildParts backward (part :: parts) growth = growth.repeated addState (first + others) := by
  cases backward with
  | false =>
      rw [buildParts, if_neg Bool.false_ne_true, one, repeated_add]
      exact congrArg _ (funext rest)
  | true =>
      rw [buildParts, if_pos rfl, rest, Nat.add_comm, repeated_add]
      exact congrArg _ (funext one)

/-- An anchored literal has a state for each byte, and one for each of the assertions. -/
theorem build_literalOutline (literal : List Char) (growth : Growth) :
    build backward (Regex.literalOutline literal) growth =
      growth.repeated addState (Text.byteLength literal + 2) := by
  have none : ∀ growth, buildParts backward [] growth = growth.repeated addState 0 := fun _ => rfl
  have ending := buildParts_cons (build_check .textEnd) none
  have behind : ∀ growth,
      buildParts backward (Regex.literalParts literal ++ [.check .textEnd]) growth =
        growth.repeated addState (Text.byteLength literal + 1) := by
    cases literal with
    | nil => exact ending
    | cons c literal => exact buildParts_cons (fun _ => rfl) ending
  refine (buildParts_cons (build_check .textStart) behind growth).trans ?_
  congr 1
  omega

/-- Where every match begins at the start, the automaton that reads forwards has two states in
front of those of the outline and two behind them. -/
theorem automaton?_forward {outline : Outline} {count : Nat} (anchored : outline.startsText = true)
    (built : ∀ growth, build false outline growth = growth.repeated addState count) :
    outline.automaton? false = Growth.zero.repeated addState (count + 2 + 2) := by
  have captured : build false (.capture 0 outline) = Growth.repeated addState (count + 2) := by
    funext growth
    rw [build, if_neg Bool.false_ne_true, repeated_between, ← funext built]
    exact (Option.bind_assoc _ _ _).symm
  rw [automaton?, if_neg Bool.false_ne_true, anchored, if_pos rfl, repeated_between, ← captured]
  rfl

/-- Where every match ends at the end, the automaton that reads backwards has one state in front of
those of the outline and one behind them. -/
theorem automaton?_backward {outline : Outline} {count : Nat} (anchored : outline.endsText = true)
    (built : ∀ growth, build true outline growth = growth.repeated addState count) :
    outline.automaton? true = Growth.zero.repeated addState (count + 2) := by
  rw [automaton?, if_pos rfl, anchored, if_pos rfl, repeated_between, ← funext built]
  rfl

end Outline

namespace Regex

/-- The size in bytes of the longest literals that are taken: six states are not for their bytes. -/
def maxLiteral : Nat := Growth.maxBytes / Growth.stateBytes - 6

/-- An anchored literal fits if its bytes do. -/
theorem fits_anchoredItems (literal : List Char) :
    (Group.sequence (anchoredItems .full literal)).fits =
      decide (Text.byteLength literal ≤ maxLiteral) := by
  have starts : (literalOutline literal).startsText = true := rfl
  have ends : (literalOutline literal).endsText = true := by cases literal <;> rfl
  have fits : (literalOutline literal).fits = (((literalOutline literal).automaton? false).isSome &&
      ((literalOutline literal).automaton? true).isSome) := rfl
  rw [Regex.fits, outline_anchoredItems, fits,
    Outline.automaton?_forward starts (Outline.build_literalOutline literal),
    Outline.automaton?_backward ends (Outline.build_literalOutline literal), Bool.eq_iff_iff]
  simp only [Bool.and_eq_true, Growth.isSome_repeated_addState, decide_eq_true_eq]
  change _ ↔ _ ≤ 327674
  simp only [Growth.zero, Growth.stateBytes, Growth.maxBytes]
  omega

theorem byteLength_toList (text : String) : Text.byteLength text.toList = text.utf8ByteSize := by
  rw [← String.ofList_toList (s := text), String.toList_ofList]
  generalize text.toList = list
  induction list with
  | nil => rfl
  | cons c list ih =>
      rw [String.ofList_cons, String.utf8ByteSize_append, String.utf8ByteSize_singleton, ← ih]
      rfl

/-! ## Taking literals -/

/-- A meaning takes a literal: as a pattern for whole cells it matches itself and nothing else. -/
def Takes (meaning : String → Option (String → Bool)) (literal : String) : Prop :=
  meaning (Anchoring.full.anchor (Pattern.escape literal)) = some fun cell => cell == literal

variable {pattern literal : String}

/-- Without the limit of size, all literals are taken. -/
theorem takes_meaning? (literal : String) : Takes meaning? literal := meaning?_full_escape literal

/-- What is taken under the limit of size has the same meaning without it. -/
theorem meaning?_of_matcher? {matched : String → Bool} (taken : matcher? pattern = some matched) :
    meaning? pattern = some matched := by
  obtain ⟨regex, parsed, taken⟩ := Option.bind_eq_some_iff.mp taken
  split at taken
  · rw [meaning?, parsed]
    exact taken
  · cases taken

theorem matcher?_full_escape (literal : String) :
    matcher? (Anchoring.full.anchor (Pattern.escape literal)) =
      if literal.utf8ByteSize ≤ maxLiteral then some fun cell => cell == literal else none := by
  have meant := meaning?_full_escape literal
  rw [meaning?, parse?_anchor_escape, Option.map_some] at meant
  rw [matcher?, parse?_anchor_escape]
  change (if (Group.sequence _).fits = true then _ else none) = _
  simp only [fits_anchoredItems, byteLength_toList, decide_eq_true_eq, ← meant]
  rfl

/-- A literal is taken if it is not too long. -/
theorem takes_matcher? (short : literal.utf8ByteSize ≤ maxLiteral) : Takes matcher? literal :=
  (matcher?_full_escape literal).trans (if_pos short)

theorem matcher?_of_long (long : maxLiteral < literal.utf8ByteSize) :
    matcher? (Anchoring.full.anchor (Pattern.escape literal)) = none :=
  (matcher?_full_escape literal).trans (if_neg (Nat.not_le_of_lt long))

end Regex

end EntryStore
