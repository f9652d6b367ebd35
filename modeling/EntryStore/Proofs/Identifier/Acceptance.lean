import EntryStore.Proofs.Identifier

/-!
# The names that are accepted

The check splits a name at its points first and brings each part into normal form afterwards, so
that a character whose normal form is a point makes no qualified name.  `Admissible` states what
the normal form of a part has to be, in classes of characters and in bytes; it does not mention the
checks.  Nothing is assumed of the function that computes normal forms.
-/

namespace EntryStore.Identifier

/-- An ASCII letter. -/
def IsLetter (c : Char) : Prop := ('A' ≤ c ∧ c ≤ 'Z') ∨ ('a' ≤ c ∧ c ≤ 'z')

/-- A text of the form `[A-Za-z_][A-Za-z0-9_]*`. -/
def IsWord (text : List Char) : Prop :=
  ∃ first others, text = first :: others ∧ (IsLetter first ∨ first = '_') ∧
    ∀ c ∈ others, IsLetter c ∨ ('0' ≤ c ∧ c ≤ '9') ∨ c = '_'

/-- Texts that differ in the case of ASCII letters at most. -/
def SameLetters (text other : List Char) : Prop :=
  text.map Char.toLower = other.map Char.toLower

/-- What the normal form of a part of a name has to be. -/
structure Admissible (text : String) : Prop where
  ascii : IsAscii text
  word : IsWord text.toList
  short : text.utf8ByteSize ≤ 63
  unreserved : ∀ start, start <+: text.toList → ¬ SameLetters start "sqlite_".toList
  noKeyword : ∀ keyword ∈ keywords, ¬ SameLetters text.toList keyword.toList

/-! ## Parts -/

theorem isAlpha_iff (c : Char) : c.isAlpha = true ↔ IsLetter c := by
  have upper : c.isUpper = true ↔ 'A' ≤ c ∧ c ≤ 'Z' := decide_eq_true_iff
  have lower : c.isLower = true ↔ 'a' ≤ c ∧ c ≤ 'z' :=
    (Bool.and_eq_true_iff).trans (and_congr decide_eq_true_iff decide_eq_true_iff)
  exact (Bool.or_eq_true_iff).trans (or_congr upper lower)

theorem isStart_iff (c : Char) : isStart c = true ↔ IsLetter c ∨ c = '_' := by
  rw [isStart, Bool.or_eq_true, isAlpha_iff, beq_iff_eq]

theorem isRest_iff (c : Char) : isRest c = true ↔ IsLetter c ∨ ('0' ≤ c ∧ c ≤ '9') ∨ c = '_' := by
  have digit : c.isDigit = true ↔ '0' ≤ c ∧ c ≤ '9' := by
    simp only [Char.isDigit, Bool.and_eq_true, decide_eq_true_eq, ge_iff_le, Char.le_def]
  rw [isRest, Bool.or_eq_true, Char.isAlphanum, Bool.or_eq_true, isAlpha_iff, digit, beq_iff_eq,
    or_assoc]

/-- A word begins with a start character and consists of the characters of names. -/
theorem isWord_iff (text : List Char) :
    IsWord text ↔ (∃ first ∈ text.head?, isStart first = true) ∧ ∀ c ∈ text, isRest c = true := by
  cases text with
  | nil =>
      refine iff_of_false ?_ ?_
      · rintro ⟨_, _, same, _⟩
        cases same
      · rintro ⟨⟨_, head, _⟩, _⟩
        cases head
  | cons first others =>
      have starts : isStart first = true → isRest first = true := by
        rw [isStart_iff, isRest_iff]
        exact Or.imp_right Or.inr
      constructor
      · rintro ⟨_, _, ⟨⟩, start, rest⟩
        have started := (isStart_iff first).mpr start
        refine ⟨⟨first, rfl, started⟩, List.forall_mem_cons.mpr ⟨starts started, ?_⟩⟩
        exact fun c member => (isRest_iff c).mpr (rest c member)
      · rintro ⟨⟨_, ⟨⟩, started⟩, chars⟩
        refine ⟨first, others, rfl, (isStart_iff first).mp started, fun c member => ?_⟩
        exact (isRest_iff c).mp (chars c (List.mem_cons_of_mem _ member))

theorem reserved_iff (text : List Char) :
    reservedStart <+: text.map Char.toLower ↔
      ∃ start, start <+: text ∧ SameLetters start "sqlite_".toList := by
  have lower : "sqlite_".toList.map Char.toLower = reservedStart := by decide
  simp only [SameLetters, lower]
  constructor
  · rintro ⟨others, same⟩
    obtain ⟨start, behind, rfl, same, _⟩ := List.map_eq_append_iff.mp same.symm
    exact ⟨start, List.prefix_append start behind, same⟩
  · rintro ⟨start, starts, same⟩
    rw [← same]
    exact starts.map Char.toLower

theorem keyword_iff (text : List Char) :
    String.ofList (text.map Char.toLower) ∈ keywords ↔
      ∃ keyword ∈ keywords, SameLetters text keyword.toList := by
  have lower : ∀ keyword ∈ keywords, keyword.toList.map Char.toLower = keyword.toList := by
    decide
  constructor
  · intro member
    refine ⟨_, member, ?_⟩
    rw [SameLetters, lower _ member, String.toList_ofList]
  · rintro ⟨keyword, member, same⟩
    rw [SameLetters, lower keyword member] at same
    rwa [same, String.ofList_toList]

/-- The grammar of parts, in classes of characters and in bytes. -/
theorem admissible_iff_isPart (text : String) : Admissible text ↔ IsPart text.toList := by
  constructor
  · rintro ⟨_, word, short, unreserved, noKeyword⟩
    obtain ⟨starts, chars⟩ := (isWord_iff _).mp word
    refine ⟨starts, chars, Nat.le_trans (length_le_utf8ByteSize text) short, ?_, ?_⟩
    · rw [reserved_iff]
      rintro ⟨start, starts, same⟩
      exact unreserved start starts same
    · rw [keyword_iff]
      rintro ⟨keyword, member, same⟩
      exact noKeyword keyword member same
  · intro part
    refine ⟨isAscii_of_isPart part, (isWord_iff _).mpr ⟨part.starts, part.chars⟩, ?_, ?_, ?_⟩
    · rw [utf8ByteSize_of_isRest part.chars]
      exact part.short
    · exact fun start starts same =>
        part.unreserved ((reserved_iff _).mpr ⟨start, starts, same⟩)
    · exact fun keyword member same => part.noKeyword ((keyword_iff _).mpr ⟨keyword, member, same⟩)

/-- A part is accepted exactly if it is not empty and its normal form is admissible. -/
theorem checkPart_eq_ok_iff (normalize : String → String) (part : String) :
    checkPart normalize part = .ok () ↔ part ≠ "" ∧ Admissible (normalize part) := by
  rw [checkPart, admissible_iff_isPart]
  split
  · next empty =>
      constructor
      · rintro ⟨⟩
      · rintro ⟨nonempty, _⟩
        exact absurd (String.isEmpty_iff.mp empty) nonempty
  · next nonempty =>
      rw [checkNormal_eq_ok_iff]
      exact (and_iff_right fun empty => nonempty (String.isEmpty_iff.mpr empty)).symm

/-! ## Names -/

theorem splitAtPoints_eq_splitOn (text : List Char) : splitAtPoints text = text.splitOn '.' := by
  induction text with
  | nil => rfl
  | cons c rest ih =>
      obtain ⟨piece, pieces, split⟩ :=
        List.exists_cons_of_ne_nil (intercalate_splitAtPoints rest).1
      have pieces' : rest.splitOn '.' = piece :: pieces := ih.symm.trans split
      rw [List.splitOn] at pieces' ⊢
      rw [splitAtPoints, split, List.splitOnP_cons_eq_if_modifyHead, pieces']
      cases c == '.' <;> rfl

/-- There is one text more between the points of a text than it has points. -/
theorem length_splitAtPoints (text : List Char) :
    (splitAtPoints text).length = text.count '.' + 1 := by
  induction text with
  | nil => rfl
  | cons c rest ih =>
      obtain ⟨piece, pieces, split⟩ :=
        List.exists_cons_of_ne_nil (intercalate_splitAtPoints rest).1
      rw [split] at ih
      rw [splitAtPoints, split, List.count_cons]
      cases c == '.'
      · exact ih
      · exact congrArg (· + 1) ih

/-- A name is accepted exactly if there are at most two texts between its points and all of them are
accepted as parts. -/
theorem check_eq_ok_iff_parts (normalize : String → String) (name : String) :
    check normalize name = .ok () ↔
      (splitAtPoints name.toList).length ≤ 2 ∧
        ∀ part ∈ splitAtPoints name.toList, checkPart normalize (String.ofList part) = .ok () := by
  have joined := (intercalate_splitAtPoints name.toList).2
  rw [check]
  split
  · next empty =>
      obtain rfl := String.isEmpty_iff.mp empty
      constructor
      · rintro ⟨⟩
      · rintro ⟨_, accepted⟩
        cases accepted [] List.mem_cons_self
  · next nonempty =>
      split
      · next part split =>
          rw [split, List.intercalate_singleton] at joined
          rw [split, List.forall_mem_singleton, joined, String.ofList_toList]
          exact (and_iff_right (Nat.le_succ 1)).symm
      · next schema table split =>
          rw [split, List.forall_mem_cons, List.forall_mem_singleton]
          refine Outcome.bind_eq_ok_iff.trans ?_
          constructor
          · rintro ⟨_, first, second⟩
            exact ⟨Nat.le_refl 2, first, second⟩
          · rintro ⟨_, first, second⟩
            exact ⟨(), first, second⟩
      · next others single pair =>
          constructor
          · rintro ⟨⟩
          · rintro ⟨few, _⟩
            obtain ⟨part, rest, split⟩ :=
              List.exists_cons_of_ne_nil (intercalate_splitAtPoints name.toList).1
            rw [split] at few
            rcases rest with _ | ⟨table, _ | ⟨_, _⟩⟩
            · exact absurd split (single part)
            · exact absurd split (pair part table)
            · simp only [List.length_cons] at few
              omega

/-- A name is accepted exactly if it has at most one point, and each text between its points is not
empty and has an admissible normal form.  Every other name is reported as a fault of the mapping. -/
theorem check_eq_ok_iff (normalize : String → String) (name : String) :
    (check normalize name = .ok () ↔
        name.toList.count '.' ≤ 1 ∧ ∀ part ∈ name.toList.splitOn '.',
          part ≠ [] ∧ Admissible (normalize (String.ofList part))) ∧
      ∀ error, (check normalize name).mapError Fault.toError = .error error →
        ∃ reason, error = .validation reason := by
  constructor
  · have parts : (splitAtPoints name.toList).length ≤ 2 ↔ name.toList.count '.' ≤ 1 := by
      rw [length_splitAtPoints, Nat.succ_le_succ_iff]
    rw [check_eq_ok_iff_parts, parts, splitAtPoints_eq_splitOn]
    refine and_congr_right fun _ => forall₂_congr fun part _ => ?_
    rw [checkPart_eq_ok_iff, Ne, String.ofList_eq_empty_iff]
  · intro error refused
    obtain ⟨fault, _, rfl⟩ := Outcome.mapError_eq_error_iff.mp refused
    exact ⟨fault.message, rfl⟩

/-- A character whose normal form is a point separates no parts. -/
example : check (fun text => text.map fun c => if c = '．' then '.' else c) "main．meta" =
    .error (.badCharacter "main.meta" '.') := by decide +kernel

end EntryStore.Identifier
