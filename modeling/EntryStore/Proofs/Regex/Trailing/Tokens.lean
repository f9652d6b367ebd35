import EntryStore.Proofs.Regex.Trailing.Bracket
import EntryStore.Regex.Parser

/-!
# A sign behind tokens

Repetitions, groups and all other tokens leave a `$` behind a pattern where it is, so reading the
pattern with the sign ends where reading the pattern does, one item later
(`tokens_append_dollar`).
-/

namespace EntryStore.Regex

variable {flags : Flags} {text text' rest : List Char}

/-! ## Repetitions -/

theorem lazyMark_of_head?_ne (other : text.head? ≠ some '?') : lazyMark text = (false, text) := by
  unfold lazyMark
  split
  · exact absurd rfl other
  · rfl

theorem lazyMark_keeps : Keeps flags lazyMark lazyMark := by
  refine keeps_of_mark '?' (by decide) (fun later => ⟨rfl, .append _ later⟩) ?_
  intro text text' other other' trails
  rw [lazyMark_of_head?_ne other, lazyMark_of_head?_ne other']
  exact ⟨rfl, trails⟩

theorem countDigits_of_not_digit (fuel : Nat) (value? : Option Nat)
    (other : text.head?.any Char.isDigit = false) :
    countDigits flags fuel value? text = (value?, text) := by
  cases fuel with
  | zero => rfl
  | succ fuel =>
      cases text with
      | nil => rfl
      | cons c later =>
          have plain : c.isDigit = false := other
          simp [countDigits, plain]

theorem countDigits_trails {fuel fuel' : Nat} {value? : Option Nat}
    (trails : Trails flags.ignoreBlanks text text') (enough : text.length ≤ fuel)
    (enough' : text'.length ≤ fuel') :
    (countDigits flags fuel' value? text').1 = (countDigits flags fuel value? text).1 ∧
      Trails flags.ignoreBlanks (countDigits flags fuel value? text).2
        (countDigits flags fuel' value? text').2 := by
  induction fuel generalizing value? text text' fuel' with
  | zero =>
      have empty := List.eq_nil_of_length_eq_zero (Nat.le_zero.mp enough)
      subst empty
      rw [countDigits_of_not_digit _ _ (trails.head?_any rfl rfl)]
      exact ⟨rfl, trails⟩
  | succ fuel ih =>
      cases digit : text.head?.any Char.isDigit with
      | false =>
          rw [countDigits_of_not_digit _ _ digit,
            countDigits_of_not_digit _ _ (trails.head?_any rfl digit)]
          exact ⟨rfl, trails⟩
      | true =>
          cases text with
          | nil => cases digit
          | cons c later =>
              obtain rfl := trails.of_cons
              rw [List.length_cons] at enough enough'
              obtain ⟨fuel', rfl⟩ : ∃ less, fuel' = less + 1 := ⟨fuel' - 1, by omega⟩
              have short := length_skip_le flags later
              have short' := length_skip_le flags (later ++ ['$'])
              have digit : c.isDigit = true := digit
              simp only [countDigits, digit, if_true]
              exact ih (skip_append_trails flags later) (by omega) (by omega)

theorem count_leaves : Leaves flags (count flags) (count flags) := by
  intro text text' trails value? rest read
  have digits := trails.dropWhile (show Text.isBlank '$' = false from rfl)
  obtain ⟨same, trails⟩ := @countDigits_trails _ _ _ _ _ none digits (Nat.le_refl _) (Nat.le_refl _)
  simp only [count] at read ⊢
  rw [same]
  split at read
  · cases read
  · next small =>
      rw [if_neg small]
      cases read
      exact ⟨_, rfl, skip_trails (trails.dropWhile rfl)⟩

/-- The limit of a repetition, after its comma. -/
def countLimit (flags : Flags) (least? : Option Nat) (text : List Char) :
    Option (Nat × Option Nat × List Char) := do
  match text with
  | '\x7d' :: rest => return (← least?, none, rest)
  | rest =>
      let least ← least?
      let (most?, rest) ← count flags rest
      match rest with
      | '\x7d' :: rest => return (least, some (← most?), rest)
      | _ => none

/-- The counts of a repetition, after the least one. -/
def countsFrom (flags : Flags) (least? : Option Nat) (text : List Char) :
    Option (Nat × Option Nat × List Char) := do
  match text with
  | ',' :: rest => countLimit flags least? (flags.skip rest)
  | '\x7d' :: rest =>
      let least ← least?
      return (least, some least, rest)
  | _ => none

theorem counts_eq (flags : Flags) (text : List Char) :
    counts flags text = (count flags (flags.skip text)).bind fun (least?, rest) =>
      countsFrom flags least? rest := rfl

theorem countLimit_leaves {least? : Option Nat} {least : Nat} {most : Option Nat}
    (trails : Trails flags.ignoreBlanks text text')
    (read : countLimit flags least? text = some (least, most, rest)) :
    ∃ rest', countLimit flags least? text' = some (least, most, rest') ∧
      Trails flags.ignoreBlanks rest rest' := by
  unfold countLimit at read
  split at read
  · obtain rfl := trails.of_cons
    obtain ⟨least, found, read⟩ := Option.bind_eq_some_iff.mp read
    cases read
    exact ⟨_, Option.bind_eq_some_iff.mpr ⟨least, found, rfl⟩, .append _ _⟩
  · next other =>
      obtain ⟨least, found, read⟩ := Option.bind_eq_some_iff.mp read
      obtain ⟨⟨most?, later⟩, mostRead, read⟩ := Option.bind_eq_some_iff.mp read
      obtain ⟨later', mostRead', behind⟩ := count_leaves trails mostRead
      have unclosed := head?_ne_of_cons_ne other
      simp only at read
      split at read
      · obtain ⟨most, limited, read⟩ := Option.bind_eq_some_iff.mp read
        cases read
        obtain rfl := behind.of_cons
        refine ⟨_, ?_, .append _ rest⟩
        unfold countLimit
        split
        · next closing => exact absurd rfl (trails.head?_ne (by decide) unclosed)
        · exact Option.bind_eq_some_iff.mpr ⟨least, found, Option.bind_eq_some_iff.mpr
            ⟨_, mostRead', Option.bind_eq_some_iff.mpr ⟨most, limited, rfl⟩⟩⟩
      · cases read

theorem counts_leaves {least : Nat} {most : Option Nat}
    (trails : Trails flags.ignoreBlanks text text')
    (read : counts flags text = some (least, most, rest)) :
    ∃ rest', counts flags text' = some (least, most, rest') ∧
      Trails flags.ignoreBlanks rest rest' := by
  rw [counts_eq] at read ⊢
  obtain ⟨⟨least?, later⟩, leastRead, read⟩ := Option.bind_eq_some_iff.mp read
  obtain ⟨later', leastRead', trails⟩ := count_leaves (skip_trails trails) leastRead
  simp only [countsFrom] at read
  split at read
  · obtain rfl := trails.of_cons
    obtain ⟨rest', read', trails⟩ := countLimit_leaves (skip_append_trails _ _) read
    exact ⟨rest', Option.bind_eq_some_iff.mpr ⟨_, leastRead', read'⟩, trails⟩
  · obtain rfl := trails.of_cons
    obtain ⟨least, found, read⟩ := Option.bind_eq_some_iff.mp read
    cases read
    exact ⟨_, Option.bind_eq_some_iff.mpr
      ⟨_, leastRead', Option.bind_eq_some_iff.mpr ⟨least, found, rfl⟩⟩, .append _ _⟩
  · cases read

/-! ## Tokens -/

/-- A token leaves the sign behind a pattern where it is. -/
def TokenLeaves (read : List Char → Option (Reading × List Char)) : Prop :=
  ∀ {text : List Char} {next : Reading} {rest : List Char}, read text = some (next, rest) →
    ∃ rest', read (text ++ ['$']) = some (next, rest') ∧
      Trails next.group.flags.ignoreBlanks rest rest'

theorem Group.flags_repeatLast {group repeated : Group} {least : Nat} {most : Option Nat}
    {lazily : Bool} (done : group.repeatLast least most lazily = some repeated) :
    repeated.flags = group.flags := by
  unfold Group.repeatLast at done
  split at done
  · cases done
    rfl
  · cases done

variable {state : Reading}

theorem signRepetition_trails {least : Nat} {most : Option Nat} {next : Reading}
    (trails : Trails state.group.flags.ignoreBlanks text text')
    (read : signRepetition state least most text = some (next, rest)) :
    ∃ rest', signRepetition state least most text' = some (next, rest') ∧
      Trails next.group.flags.ignoreBlanks rest rest' := by
  obtain ⟨repeated, done, read⟩ := Option.bind_eq_some_iff.mp read
  cases read
  obtain ⟨mark, trails⟩ := lazyMark_keeps trails
  refine ⟨_, Option.bind_eq_some_iff.mpr ⟨repeated, mark ▸ done, rfl⟩, ?_⟩
  exact (Group.flags_repeatLast done).symm ▸ trails

theorem countedRepetition_leaves : TokenLeaves (countedRepetition state) := by
  intro text next rest read
  obtain ⟨⟨least, most, later⟩, counted, read⟩ := Option.bind_eq_some_iff.mp read
  obtain ⟨later', counted', trails⟩ := counts_leaves (.append _ text) counted
  simp only at read
  split at read
  · cases read
  · next ordered =>
      obtain ⟨rest', read', trails⟩ := signRepetition_trails (skip_trails trails) read
      refine ⟨rest', Option.bind_eq_some_iff.mpr ⟨_, counted', ?_⟩, trails⟩
      exact (if_neg ordered).trans read'

theorem flagLetters_append {read : FlagsReading} {state : FlagsReading} {mark : Char}
    (done : flagLetters state text = some (read, mark, rest)) :
    flagLetters state (text ++ ['$']) = some (read, mark, rest ++ ['$']) := by
  induction text generalizing state with
  | nil => cases done
  | cons c later ih =>
      simp only [List.cons_append, flagLetters] at done ⊢
      split
      · next ending =>
          rw [if_pos ending] at done
          split at done
          · cases done
          · next complete =>
              cases done
              exact if_neg complete
      · next further =>
          rw [if_neg further] at done
          split
          · next twice =>
              rw [if_pos twice] at done
              cases done
          · next once =>
              rw [if_neg once] at done
              split
              · next dash =>
                  rw [if_pos dash] at done
                  exact ih done
              · next letter =>
                  rw [if_neg letter] at done
                  split at done
                  · exact ih done
                  · cases done

theorem groupName_append {name : List Char} {found : String}
    (done : groupName name text = some (found, rest)) :
    groupName name (text ++ ['$']) = some (found, rest ++ ['$']) := by
  induction text generalizing name with
  | nil => cases done
  | cons c later ih =>
      simp only [List.cons_append, groupName] at done ⊢
      split
      · next ending =>
          rw [if_pos ending] at done
          split at done
          · cases done
          · next named =>
              cases done
              exact if_neg named
      · next further =>
          rw [if_neg further] at done
          split
          · next part =>
              rw [if_pos part] at done
              exact ih done
          · next other =>
              rw [if_neg other] at done
              cases done

theorem namedGroup_append {next : Reading} (read : namedGroup state text = some (next, rest)) :
    namedGroup state (text ++ ['$']) = some (next, rest ++ ['$']) := by
  obtain ⟨⟨name, later⟩, named, read⟩ := Option.bind_eq_some_iff.mp read
  refine Option.bind_eq_some_iff.mpr ⟨_, groupName_append named, ?_⟩
  simp only at read ⊢
  split
  · next taken =>
      rw [if_pos taken] at read
      cases read
  · next free =>
      rw [if_neg free] at read
      cases read
      rfl

/-- A group with flags of its own, or a change of flags, after the question mark. -/
def flagGroup (state : Reading) (text : List Char) : Option (Reading × List Char) := do
  let (read, mark, rest) ← flagLetters ⟨state.group.flags, [], false, false⟩ text
  if mark = ':' then return (state.enter read.flags, rest)
  else if read.seen.isEmpty then none
  else return (state.setFlags read.flags, rest)

/-- A group whose name, or an assertion whose sign, comes after the angle bracket. -/
def angledGroup (state : Reading) (text : List Char) : Option (Reading × List Char) :=
  match text with
  | '=' :: _ | '!' :: _ => none
  | rest => namedGroup state rest

/-- A group that is not only captured, after the question mark.  The signs of assertions are no
flags. -/
def markedGroup (state : Reading) (text : List Char) : Option (Reading × List Char) :=
  match text with
  | 'P' :: '<' :: rest => namedGroup state rest
  | '<' :: rest => angledGroup state rest
  | rest => flagGroup state rest

theorem angledGroup_of_name (equal : text.head? ≠ some '=') (differs : text.head? ≠ some '!') :
    angledGroup state text = namedGroup state text := by
  unfold angledGroup
  split
  · exact absurd rfl equal
  · exact absurd rfl differs
  · rfl

theorem markedGroup_of_flags (named : ∀ rest, text ≠ 'P' :: '<' :: rest)
    (angled : text.head? ≠ some '<') : markedGroup state text = flagGroup state text := by
  unfold markedGroup
  split
  · exact absurd rfl (named _)
  · exact absurd rfl angled
  · rfl

theorem openGroup_eq (state : Reading) (text : List Char) :
    openGroup state text =
      if (state.group.flags.skip text).head? = some '?' then
        markedGroup state (state.group.flags.skip text).tail
      else some (state.capture, state.group.flags.skip text) := by
  dsimp only [openGroup]
  generalize state.group.flags.skip text = skipped
  by_cases marked : skipped.head? = some '?'
  · obtain ⟨later, rfl⟩ := List.head?_eq_some_iff.mp marked
    rw [if_pos marked, List.tail_cons]
    split
    case h_6 rest equal differs same =>
      cases same
      have equal := head?_ne_of_cons_ne fun later same => equal later same
      have differs := head?_ne_of_cons_ne fun later same => differs later same
      exact (angledGroup_of_name equal differs).symm
    case h_7 named equal differs ahead behind other same =>
      cases same
      exact (markedGroup_of_flags named (head?_ne_of_cons_ne other)).symm
    case h_8 unmarked => exact absurd rfl (unmarked later)
    all_goals
      next same =>
        cases same
        rfl
  · rw [if_neg marked]
    split
    case h_8 => rfl
    all_goals exact absurd rfl marked

theorem flagGroup_append {next : Reading} (read : flagGroup state text = some (next, rest)) :
    flagGroup state (text ++ ['$']) = some (next, rest ++ ['$']) := by
  obtain ⟨⟨flags, mark, later⟩, letters, read⟩ := Option.bind_eq_some_iff.mp read
  refine Option.bind_eq_some_iff.mpr ⟨_, flagLetters_append letters, ?_⟩
  simp only at read ⊢
  split
  · next entering =>
      rw [if_pos entering] at read
      cases read
      rfl
  · next changing =>
      rw [if_neg changing] at read
      split
      · next none =>
          rw [if_pos none] at read
          cases read
      · next some =>
          rw [if_neg some] at read
          cases read
          rfl

theorem angledGroup_append {next : Reading} (read : angledGroup state text = some (next, rest)) :
    angledGroup state (text ++ ['$']) = some (next, rest ++ ['$']) := by
  unfold angledGroup at read
  split at read
  · cases read
  · cases read
  · next equal differs =>
      have behind := Trails.append false text
      rw [angledGroup_of_name (behind.head?_ne (by decide) (head?_ne_of_cons_ne equal))
        (behind.head?_ne (by decide) (head?_ne_of_cons_ne differs))]
      exact namedGroup_append read

theorem markedGroup_append {next : Reading} (read : markedGroup state text = some (next, rest)) :
    markedGroup state (text ++ ['$']) = some (next, rest ++ ['$']) := by
  unfold markedGroup at read
  split at read
  · exact namedGroup_append read
  · exact angledGroup_append read
  · next named angled =>
      have behind := Trails.append false text
      rw [markedGroup_of_flags ?_ (behind.head?_ne (by decide) (head?_ne_of_cons_ne angled))]
      · exact flagGroup_append read
      · intro rest same
        obtain ⟨later, here, _⟩ := pair_of_append (by decide) same
        exact named later here

theorem openGroup_leaves : TokenLeaves (openGroup state) := by
  intro text next rest read
  rw [openGroup_eq] at read ⊢
  have skipped := skip_append_trails state.group.flags text
  split at read
  · next marked =>
      obtain ⟨later, here⟩ := List.head?_eq_some_iff.mp marked
      rw [here] at skipped read
      rw [skipped.of_cons]
      exact ⟨_, markedGroup_append read, .append _ _⟩
  · next plain =>
      cases read
      exact ⟨_, if_neg (skipped.head?_ne (by decide) plain), skipped⟩

/-- Every token leaves the sign behind a pattern where it is. -/
theorem token_leaves (c : Char) : TokenLeaves (token state c) := by
  intro text next rest read
  unfold token at read
  -- One case for each operator; the last is that of a character which stands for itself.
  split at read
  case h_1 => exact openGroup_leaves read
  case h_2 =>
    obtain ⟨left, closed, read⟩ := Option.bind_eq_some_iff.mp read
    cases read
    exact ⟨_, Option.bind_eq_some_iff.mpr ⟨_, closed, rfl⟩, .append _ _⟩
  case h_4 =>
    obtain ⟨⟨set, nesting, later⟩, classRead, read⟩ := Option.bind_eq_some_iff.mp read
    obtain ⟨later', classRead', trails⟩ := bracketClass_leaves (.append _ text) classRead
    cases read
    exact ⟨later', Option.bind_eq_some_iff.mpr ⟨_, classRead', rfl⟩, trails⟩
  case h_5 => exact signRepetition_trails (.append _ text) read
  case h_6 => exact signRepetition_trails (.append _ text) read
  case h_7 => exact signRepetition_trails (.append _ text) read
  case h_8 => exact countedRepetition_leaves read
  case h_9 =>
    obtain ⟨set, found, read⟩ := Option.bind_eq_some_iff.mp read
    cases read
    exact ⟨_, Option.bind_eq_some_iff.mpr ⟨set, found, rfl⟩, .append _ _⟩
  case h_12 =>
    obtain ⟨⟨primitive, later⟩, escaped, read⟩ := Option.bind_eq_some_iff.mp read
    obtain ⟨later', escaped', trails⟩ := escapePrimitive_leaves (.append _ text) escaped
    cases read
    exact ⟨later', Option.bind_eq_some_iff.mpr ⟨_, escaped', rfl⟩, trails⟩
  case h_13 =>
    cases read
    refine ⟨_, ?_, .append _ _⟩
    unfold token
    split
    all_goals first
      | contradiction
      | rfl
  all_goals
    cases read
    exact ⟨_, rfl, .append _ _⟩

theorem tokens_empty (fuel : Nat) (state : Reading) :
    tokens (fuel + 1) state [] = some state := by
  rw [tokens, skip_nil]

/-- Reading a well-formed pattern with `$` behind it ends where reading the pattern ends and takes
the sign as a last item, unless a comment swallows it. -/
theorem tokens_append_dollar {fuel fuel' : Nat} {final : Reading} (enough : fuel < fuel')
    (trails : Trails state.group.flags.ignoreBlanks text text')
    (read : tokens fuel state text = some final) :
    tokens fuel' state text' =
        some (final.within (final.group.push (.check final.group.flags.dollar) 0)) ∨
      final.group.flags.ignoreBlanks = true ∧ tokens fuel' state text' = some final := by
  -- Along the tokens, what is left with the sign trails what is left without it.
  induction fuel generalizing fuel' state text text' with
  | zero => cases read
  | succ fuel ih =>
      obtain ⟨fuel', rfl⟩ : ∃ less, fuel' = less + 2 := ⟨fuel' - 2, by omega⟩
      rw [tokens] at read ⊢
      have skipped := skip_trails trails
      cases here : state.group.flags.skip text with
      | nil =>
          rw [here] at read skipped
          cases read
          rcases skipped with sign | ⟨on, _, swallowed⟩
          · left
            rw [sign]
            exact tokens_empty fuel' _
          · right
            rw [swallowed]
            exact ⟨on, rfl⟩
      | cons c later =>
          rw [here] at read skipped
          rw [skipped.of_cons]
          obtain ⟨⟨next, rest⟩, first, read⟩ := Option.bind_eq_some_iff.mp read
          obtain ⟨rest', first', trails⟩ := token_leaves c first
          have less : fuel < fuel' + 1 := by omega
          simp only [first', Option.bind_eq_bind, Option.bind_some]
          exact ih less trails read

end EntryStore.Regex
