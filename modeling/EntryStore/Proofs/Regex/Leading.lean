import EntryStore.Proofs.Regex.Trailing.Tokens

/-!
# Items in front of a pattern

When items have been read before a pattern begins, the pattern is read as before, and they stay at
the start of its first alternative, however many groups and alternatives come later.  `Led` relates
the states of the two readings; each token preserves it (`token_led`), and so does reading to the
end (`tokens_led`).
-/

namespace EntryStore.Regex

variable {front : List Item}

namespace Group

/-- The alternative that items make. -/
def optionOf (items : List Item) : Part := ⟨sequence items, nestingOf (items.map Item.nesting)⟩

/-- Two groups that differ by items at the start of the first alternative, which is the present one
or the earliest of those that are finished. -/
inductive Led (front : List Item) : Group → Group → Prop where
  | present (capture? : Option Nat) (flags : Flags) (items : List Item) :
      Led front ⟨capture?, flags, [], items⟩ ⟨capture?, flags, [], items ++ front⟩
  | finished (capture? : Option Nat) (flags : Flags) (later : List Part)
      (first items : List Item) :
      Led front ⟨capture?, flags, later ++ [optionOf first], items⟩
        ⟨capture?, flags, later ++ [optionOf (first ++ front)], items⟩

namespace Led

variable {group group' next : Group}

theorem flags (led : Led front group group') : group'.flags = group.flags := by
  cases led <;> rfl

theorem push (led : Led front group group') (regex : Regex) (nesting : Nat) :
    Led front (group.push regex nesting) (group'.push regex nesting) := by
  cases led with
  | present capture? flags items => exact .present capture? flags (_ :: items)
  | finished capture? flags later first items =>
      exact .finished capture? flags later first (_ :: items)

theorem setFlags (led : Led front group group') (flags : Flags) :
    Led front { group with flags := flags, items := .flags :: group.items }
      { group' with flags := flags, items := .flags :: group'.items } := by
  cases led with
  | present capture? _ items => exact .present capture? flags (_ :: items)
  | finished capture? _ later first items =>
      exact .finished capture? flags later first (_ :: items)

theorem alternate (led : Led front group group') :
    Led front group.alternate group'.alternate := by
  cases led with
  | present capture? flags items => exact .finished capture? flags [] items []
  | finished capture? flags later first items =>
      exact .finished capture? flags (optionOf items :: later) first []

theorem repeatLast (led : Led front group group') {least : Nat} {most : Option Nat}
    {lazily : Bool} (done : group.repeatLast least most lazily = some next) :
    ∃ next', group'.repeatLast least most lazily = some next' ∧ Led front next next' := by
  cases led with
  | present capture? flags items =>
      match items, done with
      | .expr part :: earlier, done =>
          cases done
          exact ⟨_, rfl, .present capture? flags (_ :: earlier)⟩
  | finished capture? flags later first items =>
      match items, done with
      | .expr part :: earlier, done =>
          cases done
          exact ⟨_, rfl, .finished capture? flags later first (_ :: earlier)⟩

end Led

end Group

namespace Reading

/-- Two states of reading that differ by items in front of the pattern. -/
inductive Led (front : List Item) : Reading → Reading → Prop where
  | outermost {group group' : Group} (led : Group.Led front group group') (captures : Nat)
      (names : List String) :
      Led front ⟨group, [], captures, names⟩ ⟨group', [], captures, names⟩
  | inside {bottom bottom' : Group} (led : Group.Led front bottom bottom') (group : Group)
      (inner : List Group) (captures : Nat) (names : List String) :
      Led front ⟨group, inner ++ [bottom], captures, names⟩
        ⟨group, inner ++ [bottom'], captures, names⟩

namespace Led

variable {state state' next : Reading}

theorem flags (led : Led front state state') : state'.group.flags = state.group.flags := by
  cases led with
  | outermost led => exact led.flags
  | inside => rfl

/-- A change of the open group that respects the items in front. -/
theorem within {change : Group → Group}
    (respects : ∀ {group group' : Group}, Group.Led front group group' →
      Group.Led front (change group) (change group'))
    (led : Led front state state') :
    Led front (state.within (change state.group)) (state'.within (change state'.group)) := by
  cases led with
  | outermost led captures names => exact .outermost (respects led) captures names
  | inside led group inner captures names => exact .inside led (change group) inner captures names

theorem push (led : Led front state state') (regex : Regex) (nesting : Nat) :
    Led front (state.within (state.group.push regex nesting))
      (state'.within (state'.group.push regex nesting)) :=
  led.within fun led => led.push regex nesting

theorem repeatLast (led : Led front state state') {least : Nat} {most : Option Nat}
    {lazily : Bool} {repeated : Group}
    (done : state.group.repeatLast least most lazily = some repeated) :
    ∃ repeated', state'.group.repeatLast least most lazily = some repeated' ∧
      Led front (state.within repeated) (state'.within repeated') := by
  cases led with
  | outermost led captures names =>
      obtain ⟨repeated', done', led⟩ := led.repeatLast done
      exact ⟨repeated', done', .outermost led captures names⟩
  | inside led group inner captures names =>
      exact ⟨repeated, done, .inside led repeated inner captures names⟩

theorem enter (led : Led front state state') (flags : Flags) :
    Led front (state.enter flags) (state'.enter flags) := by
  cases led with
  | outermost led captures names => exact .inside led _ [] captures names
  | inside led group inner captures names => exact .inside led _ (group :: inner) captures names

theorem named (led : Led front state state') (name : String) :
    Led front { state with names := name :: state.names }
      { state' with names := name :: state'.names } := by
  cases led with
  | outermost led captures names => exact .outermost led captures (name :: names)
  | inside led group inner captures names =>
      exact .inside led group inner captures (name :: names)

theorem capture (led : Led front state state') : Led front state.capture state'.capture := by
  cases led with
  | @outermost group group' led captures names =>
      have entered := Led.inside led (.new (some captures) group.flags) [] (captures + 1) names
      unfold Reading.capture
      rw [led.flags]
      exact entered
  | inside led group inner captures names =>
      exact .inside led _ (group :: inner) (captures + 1) names

theorem names (led : Led front state state') : state'.names = state.names := by
  cases led <;> rfl

theorem leave (led : Led front state state') (left : state.leave = some next) :
    ∃ next', state'.leave = some next' ∧ Led front next next' := by
  cases led with
  | outermost => cases left
  | inside led group inner captures names =>
      cases inner with
      | nil =>
          cases left
          exact ⟨_, rfl, .outermost (led.push _ _) captures names⟩
      | cons parent inner =>
          cases left
          exact ⟨_, rfl, .inside led _ inner captures names⟩

/-- Outside of all groups, the items are in the open group. -/
theorem of_outermost {group : Group} {captures : Nat} {names : List String}
    (led : Led front ⟨group, [], captures, names⟩ state') :
    ∃ group', Group.Led front group group' ∧ state' = ⟨group', [], captures, names⟩ := by
  generalize origin : Reading.mk group [] captures names = state at led
  cases led with
  | @outermost _ group' led =>
      cases origin
      exact ⟨group', led, rfl⟩
  | inside led opened inner =>
      have nothing := congrArg Reading.outer origin
      exact absurd nothing.symm (List.append_ne_nil_of_right_ne_nil inner nofun)

end Led

end Reading

open Reading (Led)

variable {state state' next : Reading} {text rest : List Char}

/-- A token is read whatever stands in front of the pattern. -/
def TokenLed (front : List Item) (read : Reading → Option (Reading × List Char)) : Prop :=
  ∀ {state state' next : Reading} {rest : List Char}, Led front state state' →
    read state = some (next, rest) → ∃ next', read state' = some (next', rest) ∧
      Led front next next'

theorem signRepetition_led (least : Nat) (most : Option Nat) (text : List Char) :
    TokenLed front (fun state => signRepetition state least most text) := by
  intro state state' next rest led read
  obtain ⟨repeated, done, read⟩ := Option.bind_eq_some_iff.mp read
  cases read
  obtain ⟨repeated', done', led⟩ := led.repeatLast done
  exact ⟨_, Option.bind_eq_some_iff.mpr ⟨repeated', done', rfl⟩, led⟩

theorem countedRepetition_led (text : List Char) :
    TokenLed front (fun state => countedRepetition state text) := by
  intro state state' next rest led read
  obtain ⟨⟨least, most, later⟩, counted, read⟩ := Option.bind_eq_some_iff.mp read
  simp only at read
  split at read
  · cases read
  · next ordered =>
      obtain ⟨next', read', led'⟩ := signRepetition_led least most _ led read
      rw [← led.flags] at counted read'
      refine ⟨next', Option.bind_eq_some_iff.mpr ⟨_, counted, ?_⟩, led'⟩
      exact (if_neg ordered).trans read'

theorem namedGroup_led (text : List Char) :
    TokenLed front (fun state => namedGroup state text) := by
  intro state state' next rest led read
  obtain ⟨⟨name, later⟩, named, read⟩ := Option.bind_eq_some_iff.mp read
  simp only at read
  split at read
  · cases read
  · next free =>
      cases read
      rw [← led.names] at free
      refine ⟨_, Option.bind_eq_some_iff.mpr ⟨_, named, if_neg free⟩, ?_⟩
      exact (led.named name).capture

theorem flagGroup_led (text : List Char) :
    TokenLed front (fun state => flagGroup state text) := by
  intro state state' next rest led read
  obtain ⟨⟨letters, mark, later⟩, lettersRead, read⟩ := Option.bind_eq_some_iff.mp read
  rw [← led.flags] at lettersRead
  simp only at read
  split at read
  · next entering =>
      cases read
      exact ⟨_, Option.bind_eq_some_iff.mpr ⟨_, lettersRead, if_pos entering⟩, led.enter _⟩
  · next changing =>
      split at read
      · cases read
      · next some =>
          cases read
          refine ⟨_, Option.bind_eq_some_iff.mpr
            ⟨_, lettersRead, (if_neg changing).trans (if_neg some)⟩, ?_⟩
          exact led.within fun led => led.setFlags letters.flags

theorem angledGroup_led (text : List Char) :
    TokenLed front (fun state => angledGroup state text) := by
  intro state state' next rest led read
  dsimp only [angledGroup] at read ⊢
  split at read
  · cases read
  · cases read
  · exact namedGroup_led _ led read

theorem markedGroup_led (text : List Char) :
    TokenLed front (fun state => markedGroup state text) := by
  intro state state' next rest led read
  dsimp only [markedGroup] at read ⊢
  split at read
  · exact namedGroup_led _ led read
  · exact angledGroup_led _ led read
  · exact flagGroup_led _ led read

theorem openGroup_led (text : List Char) : TokenLed front (fun state => openGroup state text) := by
  intro state state' next rest led read
  dsimp only at read ⊢
  rw [openGroup_eq] at read ⊢
  rw [led.flags]
  split
  · next marked =>
      rw [if_pos marked] at read
      exact markedGroup_led _ led read
  · next plain =>
      rw [if_neg plain] at read
      cases read
      exact ⟨_, rfl, led.capture⟩

/-- Every token respects the items in front. -/
theorem token_led (c : Char) (text : List Char) :
    TokenLed front (fun state => token state c text) := by
  intro state state' next rest led read
  dsimp only [token] at read ⊢
  rw [led.flags]
  split at read
  case h_1 => exact openGroup_led text led read
  case h_2 =>
    obtain ⟨left, closed, read⟩ := Option.bind_eq_some_iff.mp read
    cases read
    obtain ⟨left', closed', led⟩ := led.leave closed
    exact ⟨left', Option.bind_eq_some_iff.mpr ⟨left', closed', rfl⟩, led⟩
  case h_3 =>
    cases read
    exact ⟨_, rfl, led.within Group.Led.alternate⟩
  case h_4 =>
    obtain ⟨⟨set, nesting, later⟩, classRead, read⟩ := Option.bind_eq_some_iff.mp read
    cases read
    exact ⟨_, Option.bind_eq_some_iff.mpr ⟨_, classRead, rfl⟩, led.push _ _⟩
  case h_5 => exact signRepetition_led 0 (some 1) text led read
  case h_6 => exact signRepetition_led 0 none text led read
  case h_7 => exact signRepetition_led 1 none text led read
  case h_8 => exact countedRepetition_led text led read
  case h_9 =>
    obtain ⟨set, found, read⟩ := Option.bind_eq_some_iff.mp read
    cases read
    exact ⟨_, Option.bind_eq_some_iff.mpr ⟨set, found, rfl⟩, led.push _ _⟩
  case h_12 =>
    obtain ⟨⟨primitive, later⟩, escaped, read⟩ := Option.bind_eq_some_iff.mp read
    cases read
    exact ⟨_, Option.bind_eq_some_iff.mpr ⟨_, escaped, rfl⟩, led.push _ _⟩
  all_goals
    cases read
    exact ⟨_, rfl, led.push _ _⟩

/-- A well-formed pattern is read to its end behind any items. -/
theorem tokens_led {fuel : Nat} {final : Reading} (led : Led front state state')
    (read : tokens fuel state text = some final) :
    ∃ final', tokens fuel state' text = some final' ∧ Led front final final' := by
  induction fuel generalizing state state' text with
  | zero => cases read
  | succ fuel ih =>
      rw [tokens] at read ⊢
      rw [led.flags]
      split at read
      · cases read
        exact ⟨state', rfl, led⟩
      · obtain ⟨⟨next, rest⟩, first, read⟩ := Option.bind_eq_some_iff.mp read
        obtain ⟨next', first', led⟩ := token_led _ _ led first
        obtain ⟨final', read', led⟩ := ih led read
        exact ⟨final', Option.bind_eq_some_iff.mpr ⟨_, first', read'⟩, led⟩

end EntryStore.Regex
