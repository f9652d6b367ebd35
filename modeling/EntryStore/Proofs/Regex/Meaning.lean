import EntryStore.Regex.Matcher
import Mathlib.Data.Finset.Card
import Mathlib.Logic.Function.Iterate

/-!
# What a regular expression matches

`Regex.Matches` relates the positions of a text between which an expression matches, one
clause for each form of expression.  The matcher works on sets of positions and stops
repeating early; `isMatch_iff` says that it finds a match exactly if the relation has one.
-/

namespace EntryStore.Regex

variable {text : List Char}

/-- The character in front of a position. -/
def before (text : List Char) : Nat → Option Char
  | 0 => none
  | position + 1 => text[position]?

/-- A number of steps of a relation, one after the other. -/
def Steps (step : Nat → Nat → Prop) : Nat → Nat → Nat → Prop
  | 0, start, finish => start = finish
  | count + 1, start, finish => ∃ middle, Steps step count start middle ∧ step middle finish

/-- The part of a text between two positions matches an expression.  A limit of repetitions
that lies below `least` counts as `least`. -/
def Matches (text : List Char) : Regex → Nat → Nat → Prop
  | .empty, start, finish => start = finish
  | .chars set, start, finish =>
      finish = start + 1 ∧ ∃ c, text[start]? = some c ∧ set.contains c = true
  | .check assertion, start, finish =>
      start = finish ∧ start ≤ text.length ∧
        assertion.holds (before text start) text[start]? = true
  | .seq first second, start, finish =>
      ∃ middle, Matches text first start middle ∧ Matches text second middle finish
  | .either left right, start, finish =>
      Matches text left start finish ∨ Matches text right start finish
  | .repeated body least most _, start, finish =>
      ∃ count, least ≤ count ∧ (∀ limit, most = some limit → count ≤ max least limit) ∧
        Steps (Matches text body) count start finish
  | .group _ body, start, finish => Matches text body start finish

/-! ## Steps -/

section Steps

variable {step : Nat → Nat → Prop} {bound : Nat}

theorem Steps.append {first second start middle finish : Nat}
    (left : Steps step first start middle) (right : Steps step second middle finish) :
    Steps step (first + second) start finish := by
  induction second generalizing finish with
  | zero =>
      cases right
      exact left
  | succ second ih =>
      obtain ⟨last, initial, final⟩ := right
      exact ⟨last, ih initial, final⟩

theorem Steps.split {first second start finish : Nat}
    (steps : Steps step (first + second) start finish) :
    ∃ middle, Steps step first start middle ∧ Steps step second middle finish := by
  induction second generalizing finish with
  | zero => exact ⟨finish, steps, rfl⟩
  | succ second ih =>
      obtain ⟨last, initial, final⟩ := steps
      obtain ⟨middle, left, right⟩ := ih initial
      exact ⟨middle, left, last, right, final⟩

theorem Steps.le_bound (bounded : ∀ i j, i ≤ bound → step i j → j ≤ bound)
    {count start finish : Nat} (inside : start ≤ bound)
    (steps : Steps step count start finish) : finish ≤ bound := by
  induction count generalizing finish with
  | zero =>
      cases steps
      exact inside
  | succ count ih =>
      obtain ⟨last, initial, final⟩ := steps
      exact bounded _ _ (ih initial) final

/-- The numbers of steps from a least one on, up to a number of further ones. -/
theorem Steps.exists_append_iff {least more start finish : Nat} :
    (∃ middle, Steps step least start middle ∧
        ∃ extra ≤ more, Steps step extra middle finish) ↔
      ∃ count, least ≤ count ∧ count ≤ least + more ∧ Steps step count start finish := by
  constructor
  · rintro ⟨middle, initial, extra, few, further⟩
    exact ⟨least + extra, Nat.le_add_right _ _, Nat.add_le_add_left few _,
      initial.append further⟩
  · rintro ⟨count, enough, few, steps⟩
    rw [← Nat.add_sub_cancel' enough] at steps
    obtain ⟨middle, initial, further⟩ := steps.split
    exact ⟨middle, initial, count - least, Nat.sub_le_iff_le_add'.mpr few, further⟩

theorem Steps.exists_le_succ_iff {limit start finish : Nat} :
    (∃ count ≤ limit + 1, Steps step count start finish) ↔
      ∃ middle, (∃ count ≤ limit, Steps step count start middle) ∧
        (middle = finish ∨ step middle finish) := by
  constructor
  · rintro ⟨count, few, steps⟩
    rcases Nat.lt_or_ge limit count with last | early
    · obtain rfl : count = limit + 1 := Nat.le_antisymm few last
      obtain ⟨middle, initial, final⟩ := steps
      exact ⟨middle, ⟨limit, Nat.le_refl _, initial⟩, Or.inr final⟩
    · exact ⟨finish, ⟨count, early, steps⟩, Or.inl rfl⟩
  · rintro ⟨middle, ⟨count, few, initial⟩, rfl | final⟩
    · exact ⟨count, Nat.le_succ_of_le few, initial⟩
    · exact ⟨count + 1, Nat.succ_le_succ few, middle, initial, final⟩

/-- Among `bound + 1` positions, more than `bound` steps pass some position twice, and what
lies between the two visits can be left out. -/
theorem Steps.exists_le (bounded : ∀ i j, i ≤ bound → step i j → j ≤ bound)
    {count start finish : Nat} (inside : start ≤ bound)
    (steps : Steps step count start finish) :
    ∃ fewer ≤ bound, Steps step fewer start finish := by
  induction count using Nat.strongRecOn with
  | ind count ih =>
      rcases Nat.lt_or_ge bound count with long | short
      · have visits : ∀ i, ∃ middle, i ≤ count →
            Steps step i start middle ∧ Steps step (count - i) middle finish := by
          intro i
          rcases Nat.lt_or_ge count i with outside | within
          · exact ⟨0, fun within => absurd within (Nat.not_le.mpr outside)⟩
          · rw [← Nat.add_sub_cancel' within] at steps
            obtain ⟨middle, split⟩ := steps.split
            exact ⟨middle, fun _ => split⟩
        choose visit visited using visits
        have crowded : (Finset.range (bound + 1)).card < (Finset.range (count + 1)).card := by
          simpa using long
        have stays : ∀ i ∈ Finset.range (count + 1), visit i ∈ Finset.range (bound + 1) := by
          intro i member
          have within : i ≤ count := Nat.lt_succ_iff.mp (Finset.mem_range.mp member)
          exact Finset.mem_range.mpr
            (Nat.lt_succ_of_le ((visited i within).1.le_bound bounded inside))
        obtain ⟨i, iMember, j, jMember, distinct, same⟩ :=
          Finset.exists_ne_map_eq_of_card_lt_of_maps_to crowded stays
        have iWithin : i ≤ count := Nat.lt_succ_iff.mp (Finset.mem_range.mp iMember)
        have jWithin : j ≤ count := Nat.lt_succ_iff.mp (Finset.mem_range.mp jMember)
        rcases Nat.lt_or_gt_of_ne distinct with less | greater
        · have shorter := (visited i iWithin).1.append (same ▸ (visited j jWithin).2)
          exact ih (i + (count - j)) (by omega) shorter
        · have shorter := (visited j jWithin).1.append (same ▸ (visited i iWithin).2)
          exact ih (j + (count - i)) (by omega) shorter
      · exact ⟨count, short, steps⟩

end Steps

/-- A match that starts inside the text ends inside it. -/
theorem Matches.le_length {regex : Regex} {start finish : Nat} (inside : start ≤ text.length)
    (matched : Matches text regex start finish) : finish ≤ text.length := by
  induction regex generalizing start finish with
  | empty => exact matched ▸ inside
  | chars set =>
      obtain ⟨rfl, c, found, _⟩ := matched
      exact (List.getElem?_eq_some_iff.mp found).1
  | check assertion => exact matched.1 ▸ inside
  | seq first second firstIH secondIH =>
      obtain ⟨middle, left, right⟩ := matched
      exact secondIH (firstIH inside left) right
  | either left right leftIH rightIH =>
      rcases matched with matched | matched
      · exact leftIH inside matched
      · exact rightIH inside matched
  | repeated body least most lazily bodyIH =>
      obtain ⟨count, _, _, steps⟩ := matched
      exact steps.le_bound (fun _ _ => bodyIH) inside
  | group capture body bodyIH => exact bodyIH inside matched

/-! ## Sets of positions -/

theorem testBit_charMask (condition : Char → Bool) (text : List Char) (position : Nat) :
    (charMask condition text).testBit position = true ↔
      ∃ c, text[position]? = some c ∧ condition c = true := by
  induction text generalizing position with
  | nil => simp [charMask]
  | cons c rest ih =>
      cases position with
      | zero => cases accepted : condition c <;> simp [charMask, accepted]
      | succ position =>
          have half : charMask condition (c :: rest) / 2 = charMask condition rest := by
            simp only [charMask]
            split <;> omega
          rw [Nat.testBit_add_one, half, ih]
          simp

/-- `gapMask` at a text whose preceding character is `previous`. -/
theorem testBit_gapMask (assertion : Assertion) (previous : Option Char) (text : List Char)
    (position : Nat) :
    (gapMask assertion previous text).testBit position = true ↔
      position ≤ text.length ∧
        assertion.holds (if position = 0 then previous else before text position)
          text[position]? = true := by
  induction text generalizing previous position with
  | nil =>
      cases position with
      | zero => cases holds : assertion.holds previous none <;> simp [gapMask, holds]
      | succ position =>
          have half : gapMask assertion previous [] / 2 = 0 := by
            simp only [gapMask]
            split <;> rfl
          rw [Nat.testBit_add_one, half]
          simp
  | cons c rest ih =>
      cases position with
      | zero => cases holds : assertion.holds previous (some c) <;> simp [gapMask, holds]
      | succ position =>
          have half : gapMask assertion previous (c :: rest) / 2 =
              gapMask assertion (some c) rest := by
            simp only [gapMask]
            split <;> omega
          rw [Nat.testBit_add_one, half, ih]
          cases position <;> simp [before]

theorem testBit_allPositions (text : List Char) (position : Nat) :
    (allPositions text).testBit position = true ↔ position ≤ text.length := by
  have bits := Nat.testBit_two_pow_sub_one (text.length + 1) position
  rw [allPositions, show Nat.pow 2 (text.length + 1) = 2 ^ (text.length + 1) from rfl, bits]
  simp only [decide_eq_true_eq]
  exact Nat.lt_succ_iff

/-- A set of positions that lie in a text. -/
def Within (text : List Char) (positions : Nat) : Prop :=
  ∀ i, positions.testBit i = true → i ≤ text.length

/-- A move takes every set of positions of a text to its image under a relation. -/
def Moves (text : List Char) (move : Nat → Nat) (step : Nat → Nat → Prop) : Prop :=
  ∀ positions, Within text positions → ∀ j,
    (move positions).testBit j = true ↔ ∃ i, positions.testBit i = true ∧ step i j

/-- Stopping at a set that no longer changes leaves nothing out. -/
theorem iterate_eq (move : Nat → Nat) (count : Nat) : iterate move count = move^[count] := by
  funext positions
  induction count generalizing positions with
  | zero => rfl
  | succ count ih =>
      rw [iterate]
      split
      · next unchanged => exact (Function.iterate_fixed unchanged _).symm
      · exact ih (move positions)

section Moves

variable {move move' : Nat → Nat} {step step' : Nat → Nat → Prop}

theorem Moves.within (moves : Moves text move step)
    (bounded : ∀ i j, i ≤ text.length → step i j → j ≤ text.length) {positions : Nat}
    (inside : Within text positions) : Within text (move positions) := by
  intro j reached
  obtain ⟨i, member, reach⟩ := (moves positions inside j).mp reached
  exact bounded i j (inside i member) reach

theorem Moves.congr (moves : Moves text move step)
    (same : ∀ i j, i ≤ text.length → (step i j ↔ step' i j)) : Moves text move step' := by
  intro positions inside j
  rw [moves positions inside j]
  apply exists_congr
  intro i
  apply and_congr_right
  intro member
  exact same i j (inside i member)

theorem Moves.stay : Moves text (fun positions => positions) (fun i j => i = j) := by
  intro positions inside j
  simp

/-- A move after another one takes a step of each. -/
theorem Moves.seq (first : Moves text move step) (second : Moves text move' step')
    (bounded : ∀ i j, i ≤ text.length → step i j → j ≤ text.length) :
    Moves text (fun positions => move' (move positions))
      (fun i j => ∃ k, step i k ∧ step' k j) := by
  intro positions inside j
  rw [second _ (first.within bounded inside)]
  constructor
  · rintro ⟨k, reached, right⟩
    obtain ⟨i, member, left⟩ := (first positions inside k).mp reached
    exact ⟨i, member, k, left, right⟩
  · rintro ⟨i, member, k, left, right⟩
    exact ⟨k, (first positions inside k).mpr ⟨i, member, left⟩, right⟩

/-- The union of two moves takes a step of either. -/
theorem Moves.either (left : Moves text move step) (right : Moves text move' step') :
    Moves text (fun positions => move positions ||| move' positions)
      (fun i j => step i j ∨ step' i j) := by
  intro positions inside j
  rw [Nat.testBit_or, Bool.or_eq_true, left positions inside, right positions inside]
  simp only [and_or_left, exists_or]

theorem Moves.iterate (moves : Moves text move step)
    (bounded : ∀ i j, i ≤ text.length → step i j → j ≤ text.length) (count : Nat) :
    Moves text (iterate move count) (Steps step count) := by
  rw [iterate_eq]
  induction count with
  | zero => exact Moves.stay
  | succ count ih =>
      rw [Function.iterate_succ']
      exact ih.seq moves fun _ _ start steps => steps.le_bound bounded start

/-- Keeping what has been reached collects all numbers of steps up to a limit. -/
theorem Moves.grow (moves : Moves text move step)
    (bounded : ∀ i j, i ≤ text.length → step i j → j ≤ text.length) (limit : Nat) :
    Moves text (Regex.iterate (fun reached => reached ||| move reached) limit)
      (fun i j => ∃ count ≤ limit, Steps step count i j) := by
  rw [iterate_eq]
  induction limit with
  | zero => exact Moves.stay.congr fun i j _ => by simp [Steps]
  | succ limit ih =>
      have stays : ∀ i j, i ≤ text.length → (∃ count ≤ limit, Steps step count i j) →
          j ≤ text.length := by
        rintro i j start ⟨count, _, steps⟩
        exact steps.le_bound bounded start
      rw [Function.iterate_succ']
      exact (ih.seq (Moves.stay.either moves) stays).congr fun _ _ _ =>
        Steps.exists_le_succ_iff.symm

theorem moves_chars (set : CharSet) :
    Moves text (plan text (.chars set)).run (Matches text (.chars set)) := by
  intro positions inside j
  simp only [plan, Plan.run, Matches, Nat.testBit_shiftLeft, Nat.testBit_and,
    Bool.and_eq_true, decide_eq_true_eq, testBit_charMask]
  constructor
  · rintro ⟨positive, member, found⟩
    exact ⟨j - 1, member, by omega, found⟩
  · rintro ⟨i, member, rfl, found⟩
    exact ⟨by omega, member, found⟩

theorem moves_check (assertion : Assertion) :
    Moves text (plan text (.check assertion)).run (Matches text (.check assertion)) := by
  intro positions inside j
  have first : (if j = 0 then none else before text j) = before text j := by
    cases j <;> rfl
  simp only [plan, Plan.run, Matches, Nat.testBit_and, Bool.and_eq_true, testBit_gapMask,
    first]
  constructor
  · rintro ⟨member, holds⟩
    exact ⟨j, member, rfl, holds⟩
  · rintro ⟨i, member, rfl, holds⟩
    exact ⟨member, holds⟩

/-- A limit leaves so many further repetitions.  Without one, as many further repetitions as
there are positions reach everything. -/
theorem moves_repeated {body : Regex} (moves : Moves text (plan text body).run (Matches text body))
    (least : Nat) (most : Option Nat) (lazily : Bool) :
    Moves text (plan text (.repeated body least most lazily)).run
      (Matches text (.repeated body least most lazily)) := by
  have bounded : ∀ i j, i ≤ text.length → Matches text body i j → j ≤ text.length :=
    fun _ _ => Matches.le_length
  have repeats := fun more => (moves.iterate bounded least).seq (moves.grow bounded more)
    fun _ _ start steps => steps.le_bound bounded start
  cases most with
  | some limit =>
      refine (repeats (limit - least)).congr ?_
      intro i j _
      have furthest : least + (limit - least) = max least limit := by omega
      rw [Steps.exists_append_iff, furthest]
      simp only [Matches, Option.some.injEq, forall_eq']
  | none =>
      refine (repeats (text.length + 1)).congr ?_
      intro i j start
      constructor
      · rintro ⟨k, initial, extra, _, further⟩
        exact ⟨least + extra, Nat.le_add_right _ _, nofun, initial.append further⟩
      · rintro ⟨count, enough, _, steps⟩
        rw [← Nat.add_sub_cancel' enough] at steps
        obtain ⟨k, initial, further⟩ := steps.split
        -- The required steps stay as they are; only those behind them can be left out.
        obtain ⟨fewer, few, shorter⟩ := further.exists_le bounded (initial.le_bound bounded start)
        exact ⟨k, initial, fewer, Nat.le_succ_of_le few, shorter⟩

end Moves

/-! ## The matcher -/

/-- Running the plan of an expression takes a set of positions to the ends of the matches
that start in it. -/
theorem moves_run_plan (text : List Char) (regex : Regex) :
    Moves text (regex.plan text).run (Matches text regex) := by
  induction regex with
  | empty => exact Moves.stay
  | chars set => exact moves_chars set
  | check assertion => exact moves_check assertion
  | seq first second firstIH secondIH =>
      exact firstIH.seq secondIH fun _ _ => Matches.le_length
  | either left right leftIH rightIH => exact leftIH.either rightIH
  | repeated body least most lazily bodyIH => exact moves_repeated bodyIH least most lazily
  | group capture body bodyIH => exact bodyIH

/-- The matcher finds a match exactly if some part of the text matches. -/
theorem isMatch_iff (regex : Regex) (text : String) :
    regex.isMatch text = true ↔
      ∃ start ≤ text.toList.length, ∃ finish, Matches text.toList regex start finish := by
  have inside : Within text.toList (allPositions text.toList) := fun i member =>
    (testBit_allPositions text.toList i).mp member
  have moves := moves_run_plan text.toList regex (allPositions text.toList) inside
  simp only [isMatch, bne_iff_ne]
  constructor
  · intro found
    obtain ⟨finish, member⟩ := Nat.exists_testBit_of_ne_zero found
    obtain ⟨start, within, matched⟩ := (moves finish).mp member
    exact ⟨start, inside start within, finish, matched⟩
  · rintro ⟨start, within, finish, matched⟩ nothing
    have member := (moves finish).mpr ⟨start, (testBit_allPositions _ _).mpr within, matched⟩
    rw [nothing, Nat.zero_testBit] at member
    exact Bool.false_ne_true member

end EntryStore.Regex
