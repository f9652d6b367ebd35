import EntryStore.Proofs.Regex.Trailing.Escape
import EntryStore.Regex.Bracket

/-!
# A sign behind classes

Classes in brackets leave a `$` behind a pattern where it is.  The sign is none of the characters
that open, close or combine classes.
-/

namespace EntryStore.Regex

variable {flags : Flags} {text text' rest : List Char}

/-- A name of a class is read in front of the sign, or runs into it. -/
theorem className_append (text : List Char) :
    ((className text).2 = [] ∧ (className (text ++ ['$'])).2 = []) ∨
      className (text ++ ['$']) = ((className text).1, (className text).2 ++ ['$']) := by
  induction text with
  | nil => exact Or.inl ⟨rfl, rfl⟩
  | cons c rest ih =>
      by_cases colon : c = ':'
      · subst colon
        exact Or.inr rfl
      · have passed : ∀ rest, className (c :: rest) =
            (c :: (className rest).1, (className rest).2) := by
          intro rest
          rw [className]
          exact fun same => colon same
        rw [List.cons_append, passed, passed]
        rcases ih with none | read
        · exact Or.inl none
        · rw [read]
          exact Or.inr rfl

/-- The class of a name that has been read, if its brackets are closed. -/
def classNamed (negated : Bool) (read : List Char × List Char) :
    Option (Bool × CharSet × List Char) := do
  match read.2 with
  | ':' :: ']' :: rest => return (negated, ← CharSet.named.lookup (String.ofList read.1), rest)
  | _ => none

theorem classNamed_append (negated : Bool) (text : List Char) :
    classNamed negated (className (text ++ ['$'])) =
      (classNamed negated (className text)).map fun (negated, set, rest) =>
        (negated, set, rest ++ ['$']) := by
  rcases className_append text with ⟨none, none'⟩ | read
  · simp only [classNamed, none, none', Option.map_none]
  · rw [read]
    unfold classNamed
    split
    · next rest same =>
        obtain ⟨later, here, rfl⟩ := pair_of_append (by decide) same
        rw [here]
        simp only [Option.bind_eq_bind, Option.map_bind]
        rfl
    · next other =>
        split
        · next rest same =>
            exact absurd (congrArg (· ++ ['$']) same) (other _)
        · rfl

/-- A named class is read in front of the sign as it is without the sign. -/
theorem namedClass?_append (text : List Char) :
    namedClass? (text ++ ['$']) =
      (namedClass? text).map fun (negated, set, rest) => (negated, set, rest ++ ['$']) := by
  cases text with
  | nil => rfl
  | cons c rest =>
      by_cases colon : c = ':'
      · subst colon
        cases rest with
        | nil => exact classNamed_append false []
        | cons d rest =>
            by_cases caret : d = '^'
            · subst caret
              exact classNamed_append true rest
            · have plain : ∀ later, namedClass? (':' :: d :: later) =
                  classNamed false (className (d :: later)) := by
                intro later
                simp only [namedClass?, List.cons.injEq, caret, false_and, imp_self, implies_true]
                rfl
              rw [plain, ← classNamed_append]
              exact plain (rest ++ ['$'])
      · simp [namedClass?, colon]

theorem classPrimitive_of_ne {c : Char} (plain : c ≠ '\\') (rest : List Char) :
    classPrimitive flags (c :: rest) = some (.literal c, rest) := by
  simp only [classPrimitive]

theorem classPrimitive_leaves : Leaves flags (classPrimitive flags) (classPrimitive flags) := by
  intro text text' trails a rest read
  cases text with
  | nil => cases read
  | cons c later =>
      rw [trails.of_cons]
      by_cases escape : c = '\\'
      · subst escape
        exact escapePrimitive_leaves (.append _ _) read
      · rw [classPrimitive_of_ne escape] at read ⊢
        cases read
        exact ⟨_, rfl, .append _ _⟩

/-- What a class holds where a primitive stands alone. -/
def aloneInClass (flags : Flags) (primitive : Primitive) (rest : List Char) :
    Option (CharSet × List Char) :=
  match primitive with
  | .literal c => if admitted flags c then some (.singleton c, rest) else none
  | .set set => some (set, rest)
  | .assertion _ => none

theorem aloneInClass_leaves (primitive : Primitive) :
    Leaves flags (aloneInClass flags primitive) (aloneInClass flags primitive) := by
  intro text text' trails a rest read
  cases primitive with
  | literal c =>
      simp only [aloneInClass] at read ⊢
      split
      · next admits =>
          rw [if_pos admits] at read
          cases read
          exact ⟨text', rfl, trails⟩
      · next refused =>
          rw [if_neg refused] at read
          cases read
  | set set =>
      cases read
      exact ⟨text', rfl, trails⟩
  | assertion assertion => cases read

/-- The range from a primitive to the one that is read next. -/
def rangeInClass (flags : Flags) (first : Primitive) (text : List Char) :
    Option (CharSet × List Char) := do
  let (second, rest) ← classPrimitive flags text
  match first, second with
  | .literal low, .literal high =>
      if low ≤ high && admitted flags high then some (.range low high, rest) else none
  | _, _ => none

theorem rangeInClass_leaves (first : Primitive) :
    Leaves flags (rangeInClass flags first) (rangeInClass flags first) := by
  intro text text' trails a rest read
  obtain ⟨⟨second, later⟩, secondRead, read⟩ := Option.bind_eq_some_iff.mp read
  obtain ⟨later', secondRead', trails'⟩ := classPrimitive_leaves trails secondRead
  refine ⟨later', Option.bind_eq_some_iff.mpr ⟨_, secondRead', ?_⟩, ?_⟩
  all_goals
    simp only at read ⊢
    split at read
    · split at read
      · next admits =>
          cases read
          first | exact if_pos admits | exact trails'
      · cases read
    · cases read

/-- What a class holds from a primitive on, blanks behind it apart. -/
def itemFrom (flags : Flags) (first : Primitive) (rest : List Char) :
    Option (CharSet × List Char) :=
  match rest with
  | [] => none
  | '-' :: afterDash =>
      match flags.skip afterDash with
      | [] => none
      | ']' :: _ | '-' :: _ => aloneInClass flags first rest
      | upper => rangeInClass flags first upper
  | _ => aloneInClass flags first rest

theorem classItem_eq (flags : Flags) (text : List Char) :
    classItem flags text = (classPrimitive flags text).bind fun (first, rest) =>
      itemFrom flags first (flags.skip rest) := rfl

theorem itemFrom_of_ne {c : Char} (plain : c ≠ '-') (first : Primitive) (rest : List Char) :
    itemFrom flags first (c :: rest) = aloneInClass flags first (c :: rest) := by
  simp only [itemFrom, List.cons.injEq, plain, false_and, imp_self, implies_true]

theorem itemFrom_dash {d : Char} {later upper : List Char} (here : flags.skip later = d :: upper)
    (first : Primitive) :
    itemFrom flags first ('-' :: later) =
      if d = ']' ∨ d = '-' then aloneInClass flags first ('-' :: later)
      else rangeInClass flags first (d :: upper) := by
  simp only [itemFrom, here]
  split
  · next same => cases same
  · next same =>
      cases same
      rfl
  · next same =>
      cases same
      rfl
  · next bracket dash =>
      have plain : ¬ (d = ']' ∨ d = '-') := by
        rintro (rfl | rfl)
        · exact bracket _ rfl
        · exact dash _ rfl
      exact (if_neg plain).symm

theorem itemFrom_leaves (first : Primitive) :
    Leaves flags (itemFrom flags first) (itemFrom flags first) := by
  intro text text' trails a rest read
  cases text with
  | nil => cases read
  | cons c later =>
      by_cases dash : c = '-'
      · subst dash
        have skipped := skip_append_trails flags later
        cases here : flags.skip later with
        | nil =>
            simp only [itemFrom, here] at read
            cases read
        | cons d upper =>
            rw [here] at skipped
            have here' := skipped.of_cons
            rw [itemFrom_dash here] at read
            rw [trails.of_cons, itemFrom_dash here']
            split
            · next closing =>
                rw [if_pos closing] at read
                exact aloneInClass_leaves first (.append _ _) read
            · next other =>
                rw [if_neg other] at read
                exact rangeInClass_leaves first (.append _ _) read
      · rw [itemFrom_of_ne dash] at read
        rw [trails.of_cons, itemFrom_of_ne dash]
        exact aloneInClass_leaves first (.append _ _) read

theorem classItem_leaves : Leaves flags (classItem flags) (classItem flags) := by
  intro text text' trails a rest read
  rw [classItem_eq] at read ⊢
  obtain ⟨⟨first, later⟩, firstRead, read⟩ := Option.bind_eq_some_iff.mp read
  obtain ⟨later', firstRead', trails⟩ := classPrimitive_leaves trails firstRead
  obtain ⟨rest', read', trails'⟩ := itemFrom_leaves first (skip_trails trails) read
  exact ⟨rest', Option.bind_eq_some_iff.mpr ⟨_, firstRead', read'⟩, trails'⟩

theorem leadingDashes_of_head?_ne (current : OpenClass) (fuel : Nat)
    (plain : text.head? ≠ some '-') : leadingDashes flags current fuel text = (current, text) := by
  cases fuel with
  | zero => rfl
  | succ fuel =>
      unfold leadingDashes
      split
      · exact absurd rfl plain
      · rfl

/-- The dashes that open a class are read in front of the sign. -/
theorem leadingDashes_trails {current : OpenClass} {fuel fuel' : Nat}
    (trails : Trails flags.ignoreBlanks text text') (enough : text.length ≤ fuel)
    (enough' : text'.length ≤ fuel') :
    (leadingDashes flags current fuel' text').1 = (leadingDashes flags current fuel text).1 ∧
      Trails flags.ignoreBlanks (leadingDashes flags current fuel text).2
        (leadingDashes flags current fuel' text').2 := by
  induction fuel generalizing current text text' fuel' with
  | zero =>
      have empty := List.eq_nil_of_length_eq_zero (Nat.le_zero.mp enough)
      subst empty
      rw [leadingDashes_of_head?_ne _ _ (trails.head?_ne (by decide) nofun)]
      exact ⟨rfl, trails⟩
  | succ fuel ih =>
      by_cases dash : text.head? = some '-'
      · obtain ⟨later, rfl⟩ := List.head?_eq_some_iff.mp dash
        obtain rfl := trails.of_cons
        rw [List.length_cons] at enough enough'
        obtain ⟨fuel', rfl⟩ : ∃ less, fuel' = less + 1 := ⟨fuel' - 1, by omega⟩
        have short := length_skip_le flags later
        have short' := length_skip_le flags (later ++ ['$'])
        exact ih (skip_append_trails flags later) (by omega) (by omega)
      · rw [leadingDashes_of_head?_ne _ _ dash,
          leadingDashes_of_head?_ne _ _ (trails.head?_ne (by decide) dash)]
        exact ⟨rfl, trails⟩

/-- Whether a class is negated. -/
def classNegation (flags : Flags) (text : List Char) : Bool × List Char :=
  match text with
  | '^' :: rest => (true, flags.skip rest)
  | rest => (false, rest)

/-- What stands for itself at the start of a class. -/
def classOpening (flags : Flags) (negated : Bool) (text : List Char) : OpenClass × List Char :=
  match text with
  | ']' :: rest => ((OpenClass.new negated).addChar ']', flags.skip rest)
  | rest => leadingDashes flags (.new negated) rest.length rest

theorem openClass_eq (flags : Flags) (text : List Char) :
    openClass flags text = classOpening flags (classNegation flags (flags.skip text)).1
      (classNegation flags (flags.skip text)).2 := rfl

theorem classNegation_of_head?_ne (other : text.head? ≠ some '^') :
    classNegation flags text = (false, text) := by
  unfold classNegation
  split
  · exact absurd rfl other
  · rfl

theorem classOpening_of_head?_ne (negated : Bool) (other : text.head? ≠ some ']') :
    classOpening flags negated text = leadingDashes flags (.new negated) text.length text := by
  unfold classOpening
  split
  · exact absurd rfl other
  · rfl

theorem classNegation_keeps : Keeps flags (classNegation flags) (classNegation flags) := by
  refine keeps_of_mark '^' (by decide) (fun later => ⟨rfl, skip_append_trails flags later⟩) ?_
  intro text text' other other' trails
  rw [classNegation_of_head?_ne other, classNegation_of_head?_ne other']
  exact ⟨rfl, trails⟩

theorem classOpening_keeps (negated : Bool) :
    Keeps flags (classOpening flags negated) (classOpening flags negated) := by
  refine keeps_of_mark ']' (by decide) (fun later => ⟨rfl, skip_append_trails flags later⟩) ?_
  intro text text' other other' trails
  rw [classOpening_of_head?_ne negated other, classOpening_of_head?_ne negated other']
  exact leadingDashes_trails trails (Nat.le_refl _) (Nat.le_refl _)

theorem openClass_keeps : Keeps flags (openClass flags) (openClass flags) := by
  intro text text' trails
  obtain ⟨negated, trails⟩ := classNegation_keeps (skip_trails trails)
  rw [openClass_eq, openClass_eq, negated]
  exact classOpening_keeps _ trails

/-- The operator between classes that two characters are. -/
def classOperator? (first second : Char) : Option ClassOp :=
  match first, second with
  | '&', '&' => some .inter
  | '-', '-' => some .diff
  | '~', '~' => some .symmDiff
  | _, _ => none

/-- The operator between classes that comes first, if one does. -/
def leadingOperator? (text : List Char) : Option (ClassOp × List Char) :=
  match text with
  | first :: second :: rest => (classOperator? first second).map fun op => (op, rest)
  | _ => none

theorem leadingOperator?_append (c : Char) (text : List Char) :
    leadingOperator? (c :: (text ++ ['$'])) =
      (leadingOperator? (c :: text)).map fun (op, rest) => (op, rest ++ ['$']) := by
  cases text with
  | nil =>
      have none : classOperator? c '$' = none := by simp [classOperator?]
      simp [leadingOperator?, none]
  | cons d later =>
      simp only [leadingOperator?, List.cons_append, Option.map_map]
      rfl

/-- One step of reading a class. -/
theorem classTail_cons {fuel : Nat} {c : Char} {later : List Char}
    (here : flags.skip text = c :: later) (current : OpenClass) (outer : List OpenClass) :
    classTail flags (fuel + 1) current outer text =
      if c = ']' then
        (current.close flags).bind fun set =>
          match outer with
          | [] => some (set, current.nesting + 1, later)
          | parent :: outer =>
              classTail flags fuel (parent.add set (current.nesting + 1)) outer later
      else if c = '[' then
        match namedClass? later with
        | some (negated, set, rest) =>
            (flags.finish? negated set).bind fun set =>
              classTail flags fuel (current.add set 0) outer rest
        | none =>
            classTail flags fuel (openClass flags later).1 (current :: outer)
              (openClass flags later).2
      else
        match leadingOperator? (c :: later) with
        | some (op, rest) => classTail flags fuel (current.operate flags op) outer rest
        | none =>
            (classItem flags (c :: later)).bind fun (set, rest) =>
              classTail flags fuel (current.add set 0) outer rest := by
  rw [classTail, here]
  split
  · next same => cases same
  · next same =>
      cases same
      rfl
  · next same =>
      cases same
      rfl
  · next same =>
      cases same
      rfl
  · next same =>
      cases same
      rfl
  · next same =>
      cases same
      rfl
  · next nonempty closing opening inter diff symmDiff =>
      have plain : leadingOperator? (c :: later) = none := by
        cases later with
        | nil => rfl
        | cons d later =>
            simp only [leadingOperator?, classOperator?]
            split
            · exact absurd rfl (inter later)
            · exact absurd rfl (diff later)
            · exact absurd rfl (symmDiff later)
            · rfl
      rw [if_neg, if_neg, plain]
      · rfl
      · rintro rfl
        exact opening later rfl
      · rintro rfl
        exact closing later rfl

theorem classTail_leaves {fuel fuel' : Nat} (enough : fuel ≤ fuel') {current : OpenClass}
    {outer : List OpenClass} (trails : Trails flags.ignoreBlanks text text') {set : CharSet}
    {nesting : Nat} (read : classTail flags fuel current outer text = some (set, nesting, rest)) :
    ∃ rest', classTail flags fuel' current outer text' = some (set, nesting, rest') ∧
      Trails flags.ignoreBlanks rest rest' := by
  induction fuel generalizing fuel' current outer text text' with
  | zero => cases read
  | succ fuel ih =>
      obtain ⟨fuel', rfl⟩ : ∃ less, fuel' = less + 1 := ⟨fuel' - 1, by omega⟩
      have enough := Nat.le_of_succ_le_succ enough
      have skipped := skip_trails trails
      cases here : flags.skip text with
      | nil =>
          rw [classTail, here] at read
          cases read
      | cons c later =>
          rw [here] at skipped
          have behind := Trails.append flags.ignoreBlanks later
          rw [classTail_cons here] at read
          rw [classTail_cons skipped.of_cons]
          by_cases closing : c = ']'
          · rw [if_pos closing] at read ⊢
            obtain ⟨closed, finished, read⟩ := Option.bind_eq_some_iff.mp read
            rw [finished]
            cases outer with
            | nil =>
                cases read
                exact ⟨_, rfl, behind⟩
            | cons parent outer => exact ih enough behind read
          · rw [if_neg closing] at read ⊢
            by_cases opening : c = '['
            · rw [if_pos opening] at read ⊢
              rw [namedClass?_append]
              cases named : namedClass? later with
              | none =>
                  rw [named] at read
                  obtain ⟨same, trails⟩ := openClass_keeps behind
                  rw [Option.map_none, same]
                  exact ih enough trails read
              | some found =>
                  rw [named] at read
                  obtain ⟨held, finished, read⟩ := Option.bind_eq_some_iff.mp read
                  obtain ⟨rest', read', trails'⟩ := ih enough (.append _ _) read
                  exact ⟨rest', Option.bind_eq_some_iff.mpr ⟨held, finished, read'⟩, trails'⟩
            · rw [if_neg opening] at read ⊢
              rw [leadingOperator?_append]
              cases operator : leadingOperator? (c :: later) with
              | some found =>
                  rw [operator] at read
                  exact ih enough (.append _ _) read
              | none =>
                  rw [operator] at read
                  obtain ⟨⟨item, afterItem⟩, itemRead, read⟩ := Option.bind_eq_some_iff.mp read
                  obtain ⟨afterItem', itemRead', trails⟩ :=
                    classItem_leaves (.append _ (c :: later)) itemRead
                  obtain ⟨rest', read', trails'⟩ := ih enough trails read
                  exact ⟨rest', Option.bind_eq_some_iff.mpr ⟨_, itemRead', read'⟩, trails'⟩

theorem bracketClass_leaves (trails : Trails flags.ignoreBlanks text text') {set : CharSet}
    {nesting : Nat} (read : bracketClass flags text = some (set, nesting, rest)) :
    ∃ rest', bracketClass flags text' = some (set, nesting, rest') ∧
      Trails flags.ignoreBlanks rest rest' := by
  have longer := Nat.succ_le_succ trails.length_le
  obtain ⟨same, trails⟩ := openClass_keeps trails
  unfold bracketClass
  simp only [same]
  exact classTail_leaves longer trails read

end EntryStore.Regex
