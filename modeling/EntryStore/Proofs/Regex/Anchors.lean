import EntryStore.Proofs.Regex.Leading
import EntryStore.Proofs.Regex.Literal

/-!
# Anchored patterns

An anchoring writes its signs in front of a pattern and behind it, whatever the pattern is.  The
sign in front becomes an item of the first alternative of the pattern, and the sign behind one of
the last, read under the flags that are in force there.  So each of them binds one alternative
only; where a pattern has a single one and lines have no meaning, the anchored pattern matches the
whole cell, its start or its end, as the anchoring asks (`isMatch_anchor`).
-/

namespace EntryStore

/-- The parts of a text that an anchoring asks a pattern to match. -/
def Anchoring.Asks (anchoring : Anchoring) (length start finish : Nat) : Prop :=
  match anchoring with
  | .contains | .word => True
  | .start => start = 0
  | .finish => finish = length
  | .full => start = 0 ∧ finish = length

namespace Regex

variable {text : List Char}

/-! ## The outermost group -/

/-- The group that a pattern makes as a whole, if the pattern is well formed. -/
def outermost? (pattern : String) : Option Group := do
  let state ← tokens (pattern.toList.length + 1) (flat []) pattern.toList
  if state.outer.isEmpty ∧ state.group.content.nesting ≤ maxNesting then some state.group else none

theorem parse?_eq_map (pattern : String) :
    parse? pattern = (outermost? pattern).map fun group => group.content.regex := by
  change ((tokens _ (flat []) pattern.toList).bind fun state => _) = _
  rw [outermost?, Option.bind_eq_bind, Option.map_bind]
  congr 1
  funext state
  dsimp only [Function.comp]
  split
  · rfl
  · rfl

namespace Group

/-- The alternatives of a group, in the order in which they are written. -/
def options (group : Group) : List Regex :=
  (group.alternative :: group.alternatives).reverse.map Part.regex

/-- An alternative of a group matches a part of a text. -/
def Admits (group : Group) (text : List Char) (i start finish : Nat) : Prop :=
  ∃ option, group.options[i]? = some option ∧ Matches text option start finish

/-- Adds items to the present alternative. -/
def follow (group : Group) (behind : List Item) : Group :=
  { group with items := behind ++ group.items }

theorem matches_foldl (later : Regex) (alternatives : List Part) {start finish : Nat} :
    Matches text (alternatives.foldl (fun later earlier => .either earlier.regex later) later)
        start finish ↔
      Matches text later start finish ∨
        ∃ part ∈ alternatives, Matches text part.regex start finish := by
  induction alternatives generalizing later with
  | nil => simp
  | cons part alternatives ih =>
      rw [List.foldl_cons, ih]
      simp only [Matches, List.mem_cons, exists_eq_or_imp]
      tauto

/-- A group matches where one of its alternatives does. -/
theorem matches_content (group : Group) {start finish : Nat} :
    Matches text group.content.regex start finish ↔ ∃ i, group.Admits text i start finish := by
  have some : (∃ i, group.Admits text i start finish) ↔
      ∃ option ∈ group.options, Matches text option start finish := by
    simp only [Admits, List.mem_iff_getElem?]
    constructor
    · rintro ⟨i, option, here, matched⟩
      exact ⟨option, ⟨i, here⟩, matched⟩
    · rintro ⟨option, ⟨i, here⟩, matched⟩
      exact ⟨i, option, here, matched⟩
  rw [some, content, matches_foldl]
  simp [options, or_comm]

end Group

/-! ## Signs as items -/

theorem matches_sequence_append (items front : List Item) {start finish : Nat} :
    Matches text (Group.sequence (items ++ front)) start finish ↔
      ∃ middle, Matches text (Group.sequence front) start middle ∧
        Matches text (Group.sequence items) middle finish := by
  induction items generalizing finish with
  | nil => simp [Group.sequence, Matches]
  | cons item items ih =>
      cases item with
      | flags => exact ih
      | expr part =>
          simp only [List.cons_append, matches_sequence_cons, ih]
          constructor
          · rintro ⟨last, ⟨middle, initial, earlier⟩, final⟩
            exact ⟨middle, initial, last, earlier, final⟩
          · rintro ⟨middle, initial, last, earlier, final⟩
            exact ⟨last, ⟨middle, initial, earlier⟩, final⟩

/-- An assertion in front of the items of an alternative is about the start of the match. -/
theorem matches_sequence_behind (assertion? : Option Assertion) (items : List Item)
    {start finish : Nat} (inside : start ≤ text.length) :
    Matches text (Group.sequence (items ++ (assertion?.map checkItem).toList)) start finish ↔
      Matches text (Group.sequence items) start finish ∧ ∀ assertion ∈ assertion?,
        assertion.holds (before text start) text[start]? = true := by
  rw [matches_sequence_append]
  constructor
  · rintro ⟨middle, opened, matched⟩
    obtain ⟨rfl, holds⟩ := (matches_sequence_opening assertion? inside).mp opened
    exact ⟨matched, holds⟩
  · rintro ⟨matched, holds⟩
    exact ⟨start, (matches_sequence_opening assertion? inside).mpr ⟨rfl, holds⟩, matched⟩

namespace Group

theorem Led.length_options {front : List Item} {group group' : Group}
    (led : Led front group group') : group'.options.length = group.options.length := by
  cases led <;> simp [options]

/-- An assertion in front of a pattern binds its first alternative. -/
theorem Led.admits_iff {assertion? : Option Assertion} {group group' : Group}
    (led : Led (assertion?.map checkItem).toList group group') {i start finish : Nat}
    (inside : start ≤ text.length) :
    group'.Admits text i start finish ↔
      group.Admits text i start finish ∧ (i = 0 → ∀ assertion ∈ assertion?,
        assertion.holds (before text start) text[start]? = true) := by
  obtain ⟨first, later, here, here'⟩ : ∃ items later,
      group.options = sequence items :: later ∧
        group'.options = sequence (items ++ (assertion?.map checkItem).toList) :: later := by
    cases led with
    | present capture? flags items => exact ⟨items, [], rfl, rfl⟩
    | finished capture? flags later first items =>
        exact ⟨first, later.reverse.map Part.regex ++ [sequence items],
          by simp [options, optionOf, alternative], by simp [options, optionOf, alternative]⟩
  simp only [Admits, here, here']
  cases i with
  | zero => simp [matches_sequence_behind assertion? first inside]
  | succ i => simp

/-- An assertion behind a pattern binds its last alternative. -/
theorem admits_follow_iff (group : Group) (assertion? : Option Assertion) {i start finish : Nat}
    (inside : start ≤ text.length) :
    (group.follow (assertion?.map checkItem).toList).Admits text i start finish ↔
      group.Admits text i start finish ∧ (i + 1 = group.options.length → ∀ assertion ∈ assertion?,
        assertion.holds (before text finish) text[finish]? = true) := by
  obtain ⟨earlier, here, here'⟩ : ∃ earlier,
      group.options = earlier ++ [sequence group.items] ∧
        (group.follow (assertion?.map checkItem).toList).options =
          earlier ++ [sequence ((assertion?.map checkItem).toList ++ group.items)] :=
    ⟨group.alternatives.reverse.map Part.regex, by simp [options, alternative],
      by simp [options, alternative, follow]⟩
  simp only [Admits, here, here', List.length_append, List.length_singleton,
    Nat.add_right_cancel_iff]
  rcases Nat.lt_trichotomy i earlier.length with early | last | beyond
  · simp [List.getElem?_append_left early, Nat.ne_of_lt early]
  · subst last
    simp [matches_sequence_closing assertion? group.items inside]
  · have nothing : ∀ last : Regex, (earlier ++ [last])[i]? = none := fun last =>
      List.getElem?_eq_none (by rw [List.length_append]; exact beyond)
    simp [nothing]

end Group

/-! ## Nesting -/

theorem foldl_max_le_iff {nestings : List Nat} {least bound : Nat} :
    nestings.foldl max least ≤ bound ↔ least ≤ bound ∧ ∀ nesting ∈ nestings, nesting ≤ bound := by
  induction nestings generalizing least with
  | nil => simp
  | cons nesting nestings ih =>
      rw [List.foldl_cons, ih, Nat.max_le, List.forall_mem_cons, and_assoc]

theorem nestingOf_le {nestings : List Nat} {bound : Nat}
    (shallow : ∀ nesting ∈ nestings, nesting ≤ bound) : nestingOf nestings ≤ bound + 1 := by
  match nestings with
  | [] => exact Nat.zero_le _
  | [nesting] => exact Nat.le_succ_of_le (shallow nesting List.mem_cons_self)
  | first :: second :: rest =>
      exact Nat.succ_le_succ (foldl_max_le_iff.mpr ⟨Nat.zero_le _, shallow⟩)

theorem le_nestingOf {nestings : List Nat} {nesting : Nat} (member : nesting ∈ nestings) :
    nesting ≤ nestingOf nestings := by
  match nestings with
  | [single] => exact Nat.le_of_eq (List.mem_singleton.mp member)
  | first :: second :: rest =>
      exact Nat.le_succ_of_le ((foldl_max_le_iff.mp (Nat.le_refl _)).2 nesting member)

theorem forall_le_succ {nestings nestings' : List Nat} {bound : Nat}
    (deeper : List.Forall₂ (fun nesting nesting' => nesting' ≤ nesting + 1) nestings nestings')
    (shallow : ∀ nesting ∈ nestings, nesting ≤ bound) :
    ∀ nesting' ∈ nestings', nesting' ≤ bound + 1 := by
  induction deeper with
  | nil => exact nofun
  | cons first later ih =>
      obtain ⟨bounded, shallow⟩ := List.forall_mem_cons.mp shallow
      exact List.forall_mem_cons.mpr ⟨Nat.le_trans first (Nat.succ_le_succ bounded), ih shallow⟩

/-- Where each of several things becomes a level deeper at most, so does the whole. -/
theorem nestingOf_le_succ {nestings nestings' : List Nat}
    (deeper : List.Forall₂ (fun nesting nesting' => nesting' ≤ nesting + 1) nestings nestings') :
    nestingOf nestings' ≤ nestingOf nestings + 1 := by
  match nestings, nestings', deeper with
  | [], [], .nil => exact Nat.zero_le _
  | [_], [_], .cons deeper .nil => exact deeper
  | first :: second :: rest, first' :: second' :: rest', deeper =>
      have shallow := (foldl_max_le_iff.mp (Nat.le_refl ((first :: second :: rest).foldl max 0))).2
      exact Nat.succ_le_succ
        (foldl_max_le_iff.mpr ⟨Nat.zero_le _, forall_le_succ deeper shallow⟩)

/-- Signs in front of the items of an alternative and behind them make one level at most. -/
theorem nesting_optionOf_le {front behind : List Item} (items : List Item)
    (frontFlat : ∀ item ∈ front, item.nesting = 0)
    (behindFlat : ∀ item ∈ behind, item.nesting = 0) :
    (Group.optionOf (behind ++ (items ++ front))).nesting ≤
      (Group.optionOf items).nesting + 1 := by
  apply nestingOf_le
  intro nesting member
  obtain ⟨item, place, rfl⟩ := List.mem_map.mp member
  simp only [List.mem_append] at place
  rcases place with added | held | added
  · rw [behindFlat item added]
    exact Nat.zero_le _
  · exact le_nestingOf (List.mem_map_of_mem held)
  · rw [frontFlat item added]
    exact Nat.zero_le _

/-- Signs in front of a pattern and behind it make one level at most. -/
theorem nesting_follow_le {front behind : List Item} {group group' : Group}
    (led : Group.Led front group group') (frontFlat : ∀ item ∈ front, item.nesting = 0)
    (behindFlat : ∀ item ∈ behind, item.nesting = 0) :
    (group'.follow behind).content.nesting ≤ group.content.nesting + 1 := by
  apply nestingOf_le_succ
  cases led with
  | present capture? flags items =>
      exact .cons (nesting_optionOf_le items frontFlat behindFlat) .nil
  | finished capture? flags later first items =>
      -- The signs are in different alternatives; those between them stay as they are.
      have ahead : (Group.optionOf (first ++ front)).nesting ≤ _ :=
        nesting_optionOf_le first frontFlat (List.forall_mem_nil _)
      have last : (Group.optionOf (behind ++ (items ++ []))).nesting ≤ _ :=
        nesting_optionOf_le items (List.forall_mem_nil _) behindFlat
      rw [List.append_nil] at last
      have same : List.Forall₂ (fun nesting nesting' => nesting' ≤ nesting + 1)
          (later.map Part.nesting) (later.map Part.nesting) :=
        List.forall₂_same.mpr fun nesting _ => Nat.le_succ nesting
      refine .cons last ?_
      change List.Forall₂ _ ((later ++ [_]).map Part.nesting) ((later ++ [_]).map Part.nesting)
      rw [List.map_append, List.map_append]
      exact List.rel_append same (.cons ahead .nil)

/-! ## Reading -/

/-- The items that an anchoring puts in front of a pattern. -/
def frontItems (anchoring : Anchoring) : List Item := ((opening anchoring).map checkItem).toList

/-- The items that an anchoring puts behind a pattern, under the flags in force there. -/
def behindItems (anchoring : Anchoring) (flags : Flags) : List Item :=
  (((closing anchoring).map fun _ => flags.dollar).map checkItem).toList

theorem nesting_of_mem_checkItem {assertion? : Option Assertion} {item : Item}
    (member : item ∈ (assertion?.map checkItem).toList) : item.nesting = 0 := by
  cases assertion? with
  | none => cases member
  | some assertion =>
      cases List.mem_singleton.mp member
      rfl

theorem toList_anchor {anchoring : Anchoring} (pattern : String) :
    (anchoring.anchor pattern).toList =
      openingText anchoring ++ (pattern.toList ++ closingText anchoring) := by
  cases anchoring <;> simp [Anchoring.anchor, openingText, closingText]

/-- The sign behind a pattern is read as its last item. -/
theorem tokens_behind {anchoring : Anchoring} (signs : anchoring ≠ .word) {fuel : Nat}
    {state final : Reading} {text : List Char} (read : tokens fuel state text = some final)
    (reached : closing anchoring ≠ none → final.group.flags.ignoreBlanks = false) :
    tokens (fuel + (closingText anchoring).length) state (text ++ closingText anchoring) =
      some (final.within (final.group.follow (behindItems anchoring final.group.flags))) := by
  have unsigned : tokens fuel state (text ++ []) =
      some (final.within (final.group.follow [])) := by
    rw [List.append_nil]
    exact read
  have signed (visible : final.group.flags.ignoreBlanks = false) :
      tokens (fuel + 1) state (text ++ ['$']) =
        some (final.within (final.group.follow [checkItem final.group.flags.dollar])) := by
    rcases tokens_append_dollar (Nat.lt_succ_self fuel) (.append _ text) read with done | ⟨on, _⟩
    · exact done
    · rw [visible] at on
      cases on
  cases anchoring with
  | word => exact absurd rfl signs
  | contains => exact unsigned
  | start => exact unsigned
  | finish => exact signed (reached nofun)
  | full => exact signed (reached nofun)

/-- The sign in front of a pattern is read as its first item. -/
theorem tokens_front {anchoring : Anchoring} (signs : anchoring ≠ .word) (fuel : Nat)
    (text : List Char) :
    tokens (fuel + (openingText anchoring).length) (flat []) (openingText anchoring ++ text) =
      tokens fuel (flat (frontItems anchoring)) text := by
  cases anchoring with
  | word => exact absurd rfl signs
  | contains => rfl
  | start => exact tokens_caret fuel [] text
  | finish => rfl
  | full => exact tokens_caret fuel [] text

theorem outermost?_eq_some {pattern : String} {group : Group}
    (read : outermost? pattern = some group) :
    ∃ captures names, tokens (pattern.toList.length + 1) (flat []) pattern.toList =
      some ⟨group, [], captures, names⟩ := by
  obtain ⟨⟨opened, outer, captures, names⟩, read, whole⟩ := Option.bind_eq_some_iff.mp read
  simp only at whole
  split at whole
  · next complete =>
      cases whole
      exact ⟨captures, names, List.isEmpty_iff.mp complete.1 ▸ read⟩
  · cases whole

/-- An anchored pattern makes the group of the pattern with the signs as items. -/
theorem outermost?_anchor {anchoring : Anchoring} (signs : anchoring ≠ .word) {pattern : String}
    {group : Group} (read : outermost? pattern = some group)
    (shallow : group.content.nesting < maxNesting)
    (reached : closing anchoring ≠ none → group.flags.ignoreBlanks = false) :
    ∃ group', Group.Led (frontItems anchoring) group group' ∧
      outermost? (anchoring.anchor pattern) =
        some (group'.follow (behindItems anchoring group.flags)) := by
  obtain ⟨captures, names, read⟩ := outermost?_eq_some read
  have front : Reading.Led (frontItems anchoring) (flat []) (flat (frontItems anchoring)) :=
    .outermost (.present none {} []) 0 []
  obtain ⟨final', read', both⟩ := tokens_led front read
  obtain ⟨group', led, rfl⟩ := both.of_outermost
  refine ⟨group', led, ?_⟩
  have behind := tokens_behind signs read' (led.flags.symm ▸ reached)
  simp only [led.flags] at behind
  have length : (anchoring.anchor pattern).toList.length + 1 =
      pattern.toList.length + 1 + (closingText anchoring).length +
        (openingText anchoring).length := by
    rw [toList_anchor, List.length_append, List.length_append]
    omega
  have depth : (group'.follow (behindItems anchoring group.flags)).content.nesting ≤
      maxNesting :=
    Nat.le_trans (nesting_follow_le led (fun _ => nesting_of_mem_checkItem)
      fun _ => nesting_of_mem_checkItem) shallow
  rw [outermost?, length, toList_anchor, tokens_front signs, behind]
  exact if_pos ⟨rfl, depth⟩

/-! ## Matching -/

/-- An anchoring binds the first alternative of a pattern at the start of the text, and the last at
the end, which is that of a line where the flags say so. -/
def Group.Binds (group : Group) (anchoring : Anchoring) (text : List Char)
    (i start finish : Nat) : Prop :=
  (i = 0 → opening anchoring ≠ none → start = 0) ∧
    (i + 1 = group.options.length → closing anchoring ≠ none →
      group.flags.dollar.holds (before text finish) text[finish]? = true)

theorem textStart_holds_iff {start : Nat} (inside : start ≤ text.length) :
    Assertion.textStart.holds (before text start) text[start]? = true ↔ start = 0 := by
  cases start with
  | zero => simp [Assertion.holds, before]
  | succ start =>
      have within : start < text.length := inside
      simp [Assertion.holds, before, within]

theorem textEnd_holds_iff {finish : Nat} (inside : finish ≤ text.length) :
    Assertion.textEnd.holds (before text finish) text[finish]? = true ↔
      finish = text.length := by
  rw [Assertion.holds, Option.isNone_iff_eq_none, List.getElem?_eq_none_iff]
  exact ⟨Nat.le_antisymm inside, Nat.le_of_eq ∘ Eq.symm⟩

/-- An anchored pattern admits what its pattern admits and the anchoring binds. -/
theorem Group.admits_anchored_iff {anchoring : Anchoring} (signs : anchoring ≠ .word)
    {group group' : Group} (led : Group.Led (frontItems anchoring) group group')
    {i start finish : Nat} (inside : start ≤ text.length) :
    (group'.follow (behindItems anchoring group.flags)).Admits text i start finish ↔
      group.Admits text i start finish ∧ group.Binds anchoring text i start finish := by
  rw [behindItems, admits_follow_iff _ _ inside, led.admits_iff inside, led.length_options,
    and_assoc]
  apply and_congr_right
  intro _
  cases anchoring with
  | word => exact absurd rfl signs
  | contains => simp [Binds, opening, closing]
  | start => simp [Binds, opening, closing, textStart_holds_iff inside]
  | finish => simp [Binds, opening, closing]
  | full => simp [Binds, opening, closing, textStart_holds_iff inside]

theorem Group.admits_single {group : Group} (single : group.alternatives = [])
    {i start finish : Nat} :
    group.Admits text i start finish ↔ i = 0 ∧ Matches text group.content.regex start finish := by
  have options : group.options = [group.content.regex] := by
    simp [Group.options, content, single]
  cases i <;> simp [Admits, options]

/-- With a single alternative and no regard to lines, an anchoring binds the match at both ends. -/
theorem Group.binds_single {anchoring : Anchoring} (signs : anchoring ≠ .word) {group : Group}
    (single : group.alternatives = []) (whole : group.flags.multiLine = false)
    {start finish : Nat} (inside : finish ≤ text.length) :
    group.Binds anchoring text 0 start finish ↔ anchoring.Asks text.length start finish := by
  have length : group.options.length = 1 := by simp [options, single]
  have dollar : group.flags.dollar = .textEnd := by simp [Flags.dollar, whole]
  rw [Binds, length, dollar, textEnd_holds_iff inside]
  cases anchoring with
  | word => exact absurd rfl signs
  | contains => simp [opening, closing, Anchoring.Asks]
  | start => simp [opening, closing, Anchoring.Asks]
  | finish => simp [opening, closing, Anchoring.Asks]
  | full => simp [opening, closing, Anchoring.Asks]

/-- An anchored pattern is well formed and matches a cell that holds a part which an alternative of
the pattern matches: at the start of the cell, if it is the first alternative and a sign stands in
front, and at the end, if it is the last one and a sign stands behind.  So with a single
alternative, and unless lines end within the cell, a pattern matches the part that the anchoring
asks for.  A sign behind the pattern is read as one if blanks count at the end of the pattern:
where they are ignored, a comment may reach over the sign. -/
theorem isMatch_anchor {anchoring : Anchoring} (signs : anchoring ≠ .word) {pattern : String}
    {group : Group} (read : outermost? pattern = some group)
    (shallow : group.content.nesting < maxNesting)
    (reached : closing anchoring ≠ none → group.flags.ignoreBlanks = false) (cell : String) :
    ∃ regex, parse? (anchoring.anchor pattern) = some regex ∧
      (regex.isMatch cell = true ↔ ∃ i, ∃ start ≤ cell.toList.length, ∃ finish,
        group.Admits cell.toList i start finish ∧
          group.Binds anchoring cell.toList i start finish) ∧
      (group.alternatives = [] → group.flags.multiLine = false →
        (regex.isMatch cell = true ↔ ∃ start ≤ cell.toList.length, ∃ finish,
          Matches cell.toList group.content.regex start finish ∧
            anchoring.Asks cell.toList.length start finish)) := by
  obtain ⟨group', led, whole⟩ := outermost?_anchor signs read shallow reached
  have bound : (group'.follow (behindItems anchoring group.flags)).content.regex.isMatch cell =
      true ↔ ∃ i, ∃ start ≤ cell.toList.length, ∃ finish,
        group.Admits cell.toList i start finish ∧
          group.Binds anchoring cell.toList i start finish := by
    rw [isMatch_iff]
    simp only [Group.matches_content]
    constructor
    · rintro ⟨start, inside, finish, i, admitted⟩
      exact ⟨i, start, inside, finish, (Group.admits_anchored_iff signs led inside).mp admitted⟩
    · rintro ⟨i, start, inside, finish, admitted⟩
      exact ⟨start, inside, finish, i, (Group.admits_anchored_iff signs led inside).mpr admitted⟩
  refine ⟨(group'.follow (behindItems anchoring group.flags)).content.regex, ?_, bound, ?_⟩
  · rw [parse?_eq_map, whole]
    rfl
  · intro single lines
    rw [bound]
    constructor
    · rintro ⟨i, start, inside, finish, admitted, bound⟩
      obtain ⟨rfl, matched⟩ := (Group.admits_single single).mp admitted
      have ended := matched.le_length inside
      exact ⟨start, inside, finish, matched,
        (Group.binds_single signs single lines ended).mp bound⟩
    · rintro ⟨start, inside, finish, matched, asked⟩
      have ended := matched.le_length inside
      exact ⟨0, start, inside, finish, (Group.admits_single single).mpr ⟨rfl, matched⟩,
        (Group.binds_single signs single lines ended).mpr asked⟩

/-- Alternatives in parentheses are anchored as a whole. -/
theorem isMatch_anchor_parentheses :
    ∃ regex, parse? (Anchoring.full.anchor "(?:a|b)") = some regex ∧
      (regex.isMatch "ac" = true ↔ ∃ start ≤ 2, ∃ finish,
        Matches ['a', 'c'] (.group none (.either (.chars (.singleton 'a'))
          (.chars (.singleton 'b')))) start finish ∧ start = 0 ∧ finish = 2) := by
  have read : outermost? "(?:a|b)" = some ⟨none, {}, [],
      [.expr ⟨.group none (.either (.chars (.singleton 'a')) (.chars (.singleton 'b'))), 2⟩]⟩ :=
    rfl
  obtain ⟨regex, anchored, _, law⟩ :=
    @isMatch_anchor .full nofun _ _ read (by decide) (fun _ => rfl) "ac"
  exact ⟨regex, anchored, law rfl rfl⟩

/-- Without parentheses each sign binds one alternative only, so that cells match of which the
pattern matches no part at the place that the anchoring asks for. -/
theorem anchored_alternatives_escape :
    ∃ regex full start finish, parse? "a|b" = some regex ∧
      parse? (Anchoring.full.anchor "a|b") = some full ∧
      parse? (Anchoring.start.anchor "a|b") = some start ∧
      parse? (Anchoring.finish.anchor "a|b") = some finish ∧
      (full.isMatch "ac" = true ∧
        ¬ ∃ i j, Matches ['a', 'c'] regex i j ∧ Anchoring.full.Asks 2 i j) ∧
      (start.isMatch "cb" = true ∧
        ¬ ∃ i j, Matches ['c', 'b'] regex i j ∧ Anchoring.start.Asks 2 i j) ∧
      (finish.isMatch "ac" = true ∧
        ¬ ∃ i j, Matches ['a', 'c'] regex i j ∧ Anchoring.finish.Asks 2 i j) := by
  have either : ∀ {text : List Char} {i j : Nat},
      Matches text (.either (.chars (.singleton 'a')) (.chars (.singleton 'b'))) i j →
        j = i + 1 ∧ (text[i]? = some 'a' ∨ text[i]? = some 'b') := by
    intro text i j matched
    simpa [Matches, CharSet.contains_singleton, ← and_or_left] using matched
  refine ⟨.either (.chars (.singleton 'a')) (.chars (.singleton 'b')), _, _, _,
    rfl, rfl, rfl, rfl, ⟨rfl, ?_⟩, ⟨rfl, ?_⟩, ⟨rfl, ?_⟩⟩
  · rintro ⟨i, j, matched, rfl, rfl⟩
    exact absurd (either matched).1 (by decide)
  · rintro ⟨i, j, matched, rfl⟩
    exact absurd (either matched).2 (by decide)
  · rintro ⟨i, j, matched, rfl⟩
    obtain ⟨last, found⟩ := either matched
    obtain rfl : i = 1 := by omega
    exact absurd found (by decide)

end Regex

end EntryStore
