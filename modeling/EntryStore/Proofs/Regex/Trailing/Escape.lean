import EntryStore.Regex.Escape

/-!
# A sign behind a pattern

A well-formed pattern with a `$` behind it is read as before, token by token, and the sign comes
last.  No token of a well-formed pattern ends where it does only because the pattern ends, so each
reader leaves the sign where it is; only where blanks are ignored may a comment at the end swallow
it (`Trails`).  This module begins with blanks, comments and escapes.
-/

namespace EntryStore.Regex

variable {α : Type} {flags : Flags} {swallows : Bool} {text text' rest : List Char}

theorem head?_ne_of_cons_ne {c : Char} (other : ∀ rest, text ≠ c :: rest) :
    text.head? ≠ some c := by
  intro first
  obtain ⟨rest, same⟩ := List.head?_eq_some_iff.mp first
  exact other rest same

theorem pair_of_append {c d : Char} (sign : d ≠ '$') (same : text ++ ['$'] = c :: d :: rest) :
    ∃ later, text = c :: d :: later ∧ later ++ ['$'] = rest := by
  match text, same with
  | [_], same =>
      simp only [List.cons_append, List.nil_append, List.cons.injEq] at same
      exact absurd same.2.1.symm sign
  | _ :: _ :: later, same =>
      simp only [List.cons_append, List.cons.injEq] at same
      obtain ⟨rfl, rfl, rfl⟩ := same
      exact ⟨later, rfl, rfl⟩

/-- What is left of a pattern, and what is left of it with `$` behind it: the same with the sign
behind it, or nothing where a comment has swallowed the sign. -/
def Trails (swallows : Bool) (rest rest' : List Char) : Prop :=
  rest' = rest ++ ['$'] ∨ swallows = true ∧ rest = [] ∧ rest' = []

namespace Trails

theorem append (swallows : Bool) (rest : List Char) : Trails swallows rest (rest ++ ['$']) :=
  Or.inl rfl

theorem of_cons {c : Char} (trails : Trails swallows (c :: rest) text') :
    text' = c :: (rest ++ ['$']) := by
  rcases trails with rfl | ⟨_, absent, _⟩
  · rfl
  · cases absent

theorem dropWhile {condition : Char → Bool} (sign : condition '$' = false)
    (trails : Trails swallows text text') :
    Trails swallows (text.dropWhile condition) (text'.dropWhile condition) := by
  rcases trails with rfl | ⟨on, rfl, rfl⟩
  · left
    induction text with
    | nil => simp [sign]
    | cons c rest ih =>
        cases passed : condition c with
        | true => simpa [passed] using ih
        | false => simp [passed]
  · exact Or.inr ⟨on, rfl, rfl⟩

theorem length_le (trails : Trails swallows text text') : text.length ≤ text'.length := by
  rcases trails with rfl | ⟨_, rfl, _⟩
  · rw [List.length_append]
    exact Nat.le_add_right _ _
  · exact Nat.zero_le _

/-- The sign is none of the characters that a reader looks for. -/
theorem head?_ne {c : Char} (sign : c ≠ '$') (trails : Trails swallows text text')
    (other : text.head? ≠ some c) : text'.head? ≠ some c := by
  rcases trails with rfl | ⟨_, _, rfl⟩
  · cases text with
    | nil => simpa [eq_comm] using sign
    | cons d later => exact other
  · exact nofun

theorem head?_any {condition : Char → Bool} (sign : condition '$' = false)
    (trails : Trails swallows text text') (other : text.head?.any condition = false) :
    text'.head?.any condition = false := by
  rcases trails with rfl | ⟨_, _, rfl⟩
  · cases text with
    | nil => exact sign
    | cons d later => exact other
  · rfl

end Trails

/-! ## Blanks and comments -/

theorem skipComment_trails (text : List Char) :
    Trails true (skipComment text) (skipComment (text ++ ['$'])) := by
  induction text with
  | nil => exact Or.inr ⟨rfl, rfl, rfl⟩
  | cons c rest ih =>
      by_cases ending : c = '\n'
      · subst ending
        exact .append true rest
      · have passed : ∀ rest, skipComment (c :: rest) = skipComment rest := by
          intro rest
          rw [skipComment]
          exact fun same => ending same
        rw [List.cons_append, passed, passed]
        exact ih

theorem length_skipComment_le (text : List Char) : (skipComment text).length ≤ text.length := by
  induction text with
  | nil => exact Nat.le_refl _
  | cons c rest ih =>
      unfold skipComment
      split
      · exact Nat.zero_le _
      · next same =>
          cases same
          exact Nat.le_succ _
      · next same =>
          cases same
          exact Nat.le_succ_of_le ih

theorem length_skipBlanks_le (fuel : Nat) (text : List Char) :
    (skipBlanks fuel text).length ≤ text.length := by
  induction fuel generalizing text with
  | zero => exact Nat.le_refl _
  | succ fuel ih =>
      cases text with
      | nil => exact Nat.le_refl _
      | cons c rest =>
          unfold skipBlanks
          split
          · exact Nat.le_succ_of_le (ih rest)
          · split
            · exact Nat.le_succ_of_le (Nat.le_trans (ih _) (length_skipComment_le rest))
            · exact Nat.le_refl _

theorem length_skip_le (flags : Flags) (text : List Char) :
    (flags.skip text).length ≤ text.length := by
  unfold Flags.skip
  split
  · exact length_skipBlanks_le _ text
  · exact Nat.le_refl _

theorem skipBlanks_nil (fuel : Nat) : skipBlanks fuel [] = [] := by
  cases fuel <;> rfl

theorem skip_nil (flags : Flags) : flags.skip [] = [] := by
  unfold Flags.skip
  split
  · exact skipBlanks_nil _
  · rfl

theorem skipBlanks_trails {fuel fuel' : Nat} (enough : text.length ≤ fuel)
    (enough' : text.length + 1 ≤ fuel') :
    Trails true (skipBlanks fuel text) (skipBlanks fuel' (text ++ ['$'])) := by
  induction fuel generalizing text fuel' with
  | zero =>
      have empty := List.eq_nil_of_length_eq_zero (Nat.le_zero.mp enough)
      subst empty
      obtain ⟨fuel', rfl⟩ := Nat.exists_eq_add_of_le' enough'
      exact .append true []
  | succ fuel ih =>
      obtain ⟨fuel', rfl⟩ : ∃ less, fuel' = less + 1 := ⟨fuel' - 1, by omega⟩
      cases text with
      | nil => exact .append true []
      | cons c rest =>
          rw [List.length_cons] at enough enough'
          rw [List.cons_append, skipBlanks, skipBlanks]
          split
          · exact ih (by omega) (by omega)
          · split
            · have short := length_skipComment_le rest
              rcases skipComment_trails rest with behind | ⟨_, ended, ended'⟩
              · rw [behind]
                exact ih (by omega) (by omega)
              · rw [ended, ended', skipBlanks_nil, skipBlanks_nil]
                exact Or.inr ⟨rfl, rfl, rfl⟩
            · exact .append true (c :: rest)

/-- What the flags ignore is skipped in front of the sign, too. -/
theorem skip_trails (trails : Trails flags.ignoreBlanks text text') :
    Trails flags.ignoreBlanks (flags.skip text) (flags.skip text') := by
  rcases trails with rfl | ⟨on, rfl, rfl⟩
  · unfold Flags.skip
    split
    · next on =>
        rw [on, List.length_append]
        exact skipBlanks_trails (Nat.le_refl _) (Nat.le_refl _)
    · exact .append _ text
  · rw [skip_nil]
    exact Or.inr ⟨on, rfl, rfl⟩

theorem skip_append_trails (flags : Flags) (text : List Char) :
    Trails flags.ignoreBlanks (flags.skip text) (flags.skip (text ++ ['$'])) :=
  skip_trails (.append _ text)

/-! ## Escapes -/

/-- A reader leaves the sign behind a pattern where it is. -/
def Leaves (flags : Flags) (read read' : List Char → Option (α × List Char)) : Prop :=
  ∀ {text text' : List Char}, Trails flags.ignoreBlanks text text' → ∀ {a : α} {rest : List Char},
    read text = some (a, rest) →
      ∃ rest', read' text' = some (a, rest') ∧ Trails flags.ignoreBlanks rest rest'

/-- A reader that always gives a result leaves the sign behind a pattern where it is. -/
def Keeps (flags : Flags) (read read' : List Char → α × List Char) : Prop :=
  ∀ {text text' : List Char}, Trails flags.ignoreBlanks text text' →
    (read' text').1 = (read text).1 ∧ Trails flags.ignoreBlanks (read text).2 (read' text').2

/-- A mark is another character than the sign, so a reader that looks for it leaves the sign where
it is if it does so behind the mark and where the mark is missing. -/
theorem leaves_of_mark (mark : Char) {read : List Char → Option (α × List Char)}
    (sign : mark ≠ '$')
    (marked : ∀ {later : List Char} {a : α} {rest : List Char},
      read (mark :: later) = some (a, rest) → ∃ rest',
        read (mark :: (later ++ ['$'])) = some (a, rest') ∧ Trails flags.ignoreBlanks rest rest')
    (unmarked : ∀ {text text' : List Char}, text.head? ≠ some mark → text'.head? ≠ some mark →
      Trails flags.ignoreBlanks text text' → ∀ {a : α} {rest : List Char},
        read text = some (a, rest) → ∃ rest',
          read text' = some (a, rest') ∧ Trails flags.ignoreBlanks rest rest') :
    Leaves flags read read := by
  intro text text' trails a rest done
  by_cases here : text.head? = some mark
  · obtain ⟨later, rfl⟩ := List.head?_eq_some_iff.mp here
    obtain rfl := trails.of_cons
    exact marked done
  · exact unmarked here (trails.head?_ne sign here) trails done

/-- The same for a reader that always gives a result. -/
theorem keeps_of_mark (mark : Char) {read : List Char → α × List Char} (sign : mark ≠ '$')
    (marked : ∀ later, (read (mark :: (later ++ ['$']))).1 = (read (mark :: later)).1 ∧
      Trails flags.ignoreBlanks (read (mark :: later)).2 (read (mark :: (later ++ ['$']))).2)
    (unmarked : ∀ {text text' : List Char}, text.head? ≠ some mark → text'.head? ≠ some mark →
      Trails flags.ignoreBlanks text text' → (read text').1 = (read text).1 ∧
        Trails flags.ignoreBlanks (read text).2 (read text').2) :
    Keeps flags read read := by
  intro text text' trails
  by_cases here : text.head? = some mark
  · obtain ⟨later, rfl⟩ := List.head?_eq_some_iff.mp here
    obtain rfl := trails.of_cons
    exact marked later
  · exact unmarked here (trails.head?_ne sign here) trails

theorem fixedHex_leaves (digits value : Nat) :
    Leaves flags (fixedHex flags digits value) (fixedHex flags digits value) := by
  induction digits generalizing value with
  | zero =>
      intro text text' trails a rest read
      cases read
      exact ⟨text', rfl, trails⟩
  | succ digits ih =>
      intro text text' trails a rest read
      cases text with
      | nil => cases read
      | cons c later =>
          rw [trails.of_cons]
          obtain ⟨digit, found, read⟩ := Option.bind_eq_some_iff.mp read
          obtain ⟨rest', read', trails'⟩ := ih _ (skip_append_trails flags later) read
          exact ⟨rest', Option.bind_eq_some_iff.mpr ⟨digit, found, read'⟩, trails'⟩

theorem bracedHex_leaves {fuel fuel' : Nat} (enough : fuel ≤ fuel') (value? : Option Nat) :
    Leaves flags (bracedHex flags fuel value?) (bracedHex flags fuel' value?) := by
  induction fuel generalizing fuel' value? with
  | zero =>
      intro text text' _ a rest read
      cases read
  | succ fuel ih =>
      intro text text' trails a rest read
      obtain ⟨fuel', rfl⟩ : ∃ less, fuel' = less + 1 := ⟨fuel' - 1, by omega⟩
      cases text with
      | nil => cases read
      | cons c later =>
          rw [trails.of_cons]
          simp only [bracedHex] at read ⊢
          split
          · next brace =>
              rw [if_pos brace] at read
              cases value? with
              | none => cases read
              | some value =>
                  cases read
                  exact ⟨_, rfl, skip_append_trails flags later⟩
          · next other =>
              rw [if_neg other] at read
              obtain ⟨digit, found, read⟩ := Option.bind_eq_some_iff.mp read
              obtain ⟨rest', read', trails'⟩ :=
                ih (Nat.le_of_succ_le_succ enough) _ (skip_append_trails flags later) read
              exact ⟨rest', Option.bind_eq_some_iff.mpr ⟨digit, found, read'⟩, trails'⟩

/-- A code point is read as a character, or not at all. -/
theorem charOfCode_bind {code : Nat} {rest rest' : List Char} {primitive : Primitive}
    {swallows : Bool} (trails : Trails swallows rest rest') {later : List Char}
    (read : ((charOfCode? code).bind fun c => some (Primitive.literal c, rest)) =
      some (primitive, later)) :
    ∃ later', ((charOfCode? code).bind fun c => some (Primitive.literal c, rest')) =
      some (primitive, later') ∧ Trails swallows later later' := by
  obtain ⟨c, valid, read⟩ := Option.bind_eq_some_iff.mp read
  cases read
  exact ⟨rest', Option.bind_eq_some_iff.mpr ⟨c, valid, rfl⟩, trails⟩

theorem hexEscape_leaves (digits : Nat) :
    Leaves flags (hexEscape flags (digits + 1)) (hexEscape flags (digits + 1)) := by
  intro text text' trails a rest read
  unfold hexEscape at read ⊢
  have skipped := skip_trails trails
  cases here : flags.skip text with
  | nil =>
      rw [here] at read
      cases read
  | cons c later =>
      rw [here] at read skipped
      rw [skipped.of_cons]
      split at read
      · next behind same =>
          cases same
          obtain ⟨⟨code, _⟩, digitsRead, read⟩ := Option.bind_eq_some_iff.mp read
          have longer : later.length + 1 ≤ (later ++ ['$']).length + 1 := by simp
          obtain ⟨_, digitsRead', trails'⟩ := bracedHex_leaves longer none
            (skip_append_trails flags later) digitsRead
          obtain ⟨rest', read', trails'⟩ := charOfCode_bind trails' read
          exact ⟨rest', Option.bind_eq_some_iff.mpr ⟨_, digitsRead', read'⟩, trails'⟩
      · next other =>
          split
          · next same =>
              cases same
              exact absurd rfl (other _)
          · obtain ⟨⟨code, _⟩, digitsRead, read⟩ := Option.bind_eq_some_iff.mp read
            obtain ⟨_, digitsRead', trails'⟩ := fixedHex_leaves (digits + 1) 0
              (skipped.of_cons ▸ skipped) digitsRead
            simp only at read
            split at read
            · next admits =>
                obtain ⟨rest', read', trails'⟩ := charOfCode_bind trails' read
                refine ⟨rest', Option.bind_eq_some_iff.mpr ⟨_, digitsRead', ?_⟩, trails'⟩
                simp only [if_pos admits]
                exact read'
            · cases read

theorem edgeName_leaves {fuel fuel' : Nat} (enough : fuel ≤ fuel') (name : List Char) :
    Leaves flags (edgeName flags fuel name) (edgeName flags fuel' name) := by
  induction fuel generalizing fuel' name with
  | zero =>
      intro text text' _ a rest read
      cases read
  | succ fuel ih =>
      intro text text' trails a rest read
      obtain ⟨fuel', rfl⟩ : ∃ less, fuel' = less + 1 := ⟨fuel' - 1, by omega⟩
      cases text with
      | nil => cases read
      | cons c later =>
          rw [trails.of_cons]
          simp only [edgeName] at read ⊢
          split
          · next part =>
              rw [if_pos part] at read
              exact ih (Nat.le_of_succ_le_succ enough) _ (skip_append_trails flags later) read
          · next other =>
              rw [if_neg other] at read
              split
              · next brace =>
                  rw [if_pos brace] at read
                  obtain ⟨edge, known, read⟩ := Option.bind_eq_some_iff.mp read
                  cases read
                  exact ⟨_, Option.bind_eq_some_iff.mpr ⟨_, known, rfl⟩, .append _ _⟩
              · next none =>
                  rw [if_neg none] at read
                  cases read

theorem boundaryEscape_of_head?_ne (other : text.head? ≠ some '\x7b') :
    boundaryEscape flags text = some (.assertion (flags.edge .boundary), text) := by
  unfold boundaryEscape
  split
  · exact absurd rfl other
  · rfl

theorem boundaryEscape_leaves :
    Leaves flags (boundaryEscape flags) (boundaryEscape flags) := by
  refine leaves_of_mark '\x7b' (by decide) ?marked ?unmarked
  case marked =>
    intro later a rest read
    have skipped := skip_append_trails flags later
    simp only [boundaryEscape] at read ⊢
    cases here : flags.skip later with
    | nil =>
        rw [here] at read
        cases read
    | cons c name =>
        rw [here] at read skipped
        rw [skipped.of_cons]
        simp only at read ⊢
        split
        · next part =>
            rw [if_pos part] at read
            obtain ⟨⟨edge, _⟩, named, read⟩ := Option.bind_eq_some_iff.mp read
            cases read
            have longer : name.length + 2 ≤ (name ++ ['$']).length + 2 := by simp
            obtain ⟨rest', named', trails⟩ := edgeName_leaves longer [] (.append _ _) named
            exact ⟨rest', Option.bind_eq_some_iff.mpr ⟨_, named', rfl⟩, trails⟩
        · next other =>
            rw [if_neg other] at read
            cases read
            exact ⟨_, rfl, .append _ _⟩
  case unmarked =>
    intro text text' other other' trails a rest read
    rw [boundaryEscape_of_head?_ne other] at read
    rw [boundaryEscape_of_head?_ne other']
    cases read
    exact ⟨text', rfl, trails⟩

theorem escapePrimitive_leaves :
    Leaves flags (escapePrimitive flags) (escapePrimitive flags) := by
  intro text text' trails a rest read
  cases text with
  | nil => cases read
  | cons c later =>
      rw [trails.of_cons]
      simp only [escapePrimitive] at read ⊢
      have behind := Trails.append flags.ignoreBlanks later
      split
      · next escapable =>
          rw [if_pos escapable] at read
          cases read
          exact ⟨_, rfl, behind⟩
      · next other =>
          rw [if_neg other] at read
          cases set : flags.class? c with
          | some set' =>
              rw [set] at read
              cases read
              exact ⟨_, rfl, behind⟩
          | none =>
              rw [set] at read
              simp only at read ⊢
              split at read
              case h_1 => exact hexEscape_leaves 1 behind read
              case h_2 => exact hexEscape_leaves 3 behind read
              case h_3 => exact hexEscape_leaves 7 behind read
              case h_12 => exact boundaryEscape_leaves behind read
              case h_16 => cases read
              all_goals
                cases read
                exact ⟨_, rfl, behind⟩

end EntryStore.Regex
