import EntryStore.Identifier
import EntryStore.Proofs.Outcome

/-!
# The form of accepted names

`IsPart` and `IsName` state the grammar of names without reference to the checks.  A text in
normal form passes the check of a part exactly if it is one, and what is stored for an
accepted name is a name.  Of the function that computes normal forms only `NormalForm` is
assumed.
-/

namespace EntryStore.Identifier

/-- A text without characters beyond ASCII. -/
def IsAscii (text : String) : Prop := ∀ c ∈ text.toList, c.toNat < 0x80

/-- What is assumed of the function that computes normal forms: ASCII text is its own normal
form, and a point between ASCII texts separates their normal forms. -/
structure NormalForm (normalize : String → String) : Prop where
  ascii : ∀ text, IsAscii text → normalize text = text
  point : ∀ left right, IsAscii (normalize left) → IsAscii (normalize right) →
    normalize (left ++ "." ++ right) = normalize left ++ "." ++ normalize right

/-- On texts that are in normal form already, nothing need be done. -/
theorem normalForm_id : NormalForm id := ⟨fun _ _ => rfl, fun _ _ _ _ => rfl⟩

/-- A part of a name. -/
structure IsPart (part : List Char) : Prop where
  starts : ∃ first ∈ part.head?, isStart first = true
  chars : ∀ c ∈ part, isRest c = true
  short : part.length ≤ maxLength
  unreserved : ¬reservedStart <+: part.map Char.toLower
  noKeyword : String.ofList (part.map Char.toLower) ∉ keywords

/-- A name: one part, or two with a point between them. -/
inductive IsName (name : String) : Prop where
  | plain : IsPart name.toList → IsName name
  | qualified {schema table : List Char} :
      name.toList = schema ++ '.' :: table → IsPart schema → IsPart table → IsName name

/-! ## Characters -/

theorem isAlphanum_lt {c : Char} (alphanum : c.isAlphanum = true) : c.toNat < 0x80 := by
  unfold Char.isAlphanum Char.isAlpha Char.isUpper Char.isLower Char.isDigit at alphanum
  simp only [Bool.or_eq_true, Bool.and_eq_true, decide_eq_true_eq, ge_iff_le,
    UInt32.le_iff_toNat_le] at alphanum
  change c.val.toNat < 0x80
  have upper : 'Z'.val.toNat = 90 := rfl
  have lower : 'z'.val.toNat = 122 := rfl
  have digit : '9'.val.toNat = 57 := rfl
  omega

theorem isRest_lt {c : Char} (rest : isRest c = true) : c.toNat < 0x80 := by
  simp only [isRest, Bool.or_eq_true, beq_iff_eq] at rest
  rcases rest with alphanum | rfl
  · exact isAlphanum_lt alphanum
  · decide

/-- ASCII text has one byte for each character. -/
theorem utf8ByteSize_of_isRest {part : String} (chars : ∀ c ∈ part.toList, isRest c = true) :
    part.utf8ByteSize = part.toList.length := by
  rw [← String.ofList_toList (s := part)]
  generalize part.toList = list at chars
  rw [String.toList_ofList]
  induction list with
  | nil => rfl
  | cons c list ih =>
      have single : c.utf8Size = 1 := by
        rw [Char.utf8Size_eq_one_iff]
        have ascii := isRest_lt (chars c List.mem_cons_self)
        exact UInt32.le_iff_toNat_le.mpr (Nat.lt_succ_iff.mp ascii)
      rw [String.ofList_cons, String.utf8ByteSize_append, String.utf8ByteSize_singleton, single,
        ih fun d member => chars d (List.mem_cons_of_mem _ member), List.length_cons, Nat.add_comm]

theorem length_le_utf8ByteSize (part : String) : part.toList.length ≤ part.utf8ByteSize := by
  rw [← String.ofList_toList (s := part)]
  generalize part.toList = list
  rw [String.toList_ofList]
  induction list with
  | nil => exact Nat.zero_le _
  | cons c list ih =>
      have positive := c.utf8Size_pos
      rw [String.ofList_cons, String.utf8ByteSize_append, String.utf8ByteSize_singleton,
        List.length_cons]
      omega

/-! ## Parts -/

/-- The check of a part accepts the grammar of parts. -/
theorem checkNormal_eq_ok_iff (part : String) : checkNormal part = .ok () ↔ IsPart part.toList := by
  have long := length_le_utf8ByteSize part
  unfold checkNormal
  constructor
  · intro accepted
    -- Every branch but the last one refuses the part.
    split at accepted
    · cases accepted
    rename_i short
    split at accepted
    · cases accepted
    rename_i first rest chars
    split at accepted
    · cases accepted
    rename_i started
    split at accepted
    · cases accepted
    rename_i allowed
    simp only at accepted
    split at accepted
    · cases accepted
    rename_i unreserved
    split at accepted
    · cases accepted
    rename_i noKeyword
    rw [List.find?_eq_none] at allowed
    rw [List.isPrefixOf_iff_prefix] at unreserved
    constructor
    · exact ⟨first, by rw [chars]; rfl, by simpa using started⟩
    · intro c member
      rw [chars] at member
      simpa using allowed c member
    · omega
    · rwa [chars]
    · rwa [chars]
  · rintro ⟨⟨first, head, started⟩, allowed, short, unreserved, noKeyword⟩
    have bytes := utf8ByteSize_of_isRest allowed
    obtain ⟨rest, chars⟩ := List.head?_eq_some_iff.mp head
    have none : (first :: rest).find? (fun c => !isRest c) = none := by
      rw [List.find?_eq_none]
      intro c member
      simpa using allowed c (by rwa [chars])
    rw [if_neg (by omega), chars]
    rw [chars, ← List.isPrefixOf_iff_prefix, Bool.not_eq_true] at unreserved
    rw [chars] at noKeyword
    simp only [started, none, unreserved, noKeyword]
    rfl

/-- The texts that stand between points, put together again. -/
theorem intercalate_splitAtPoints (text : List Char) :
    splitAtPoints text ≠ [] ∧ ['.'].intercalate (splitAtPoints text) = text := by
  induction text with
  | nil => exact ⟨List.cons_ne_nil _ _, rfl⟩
  | cons c rest ih =>
      obtain ⟨nonempty, joined⟩ := ih
      obtain ⟨piece, pieces, split⟩ := List.exists_cons_of_ne_nil nonempty
      rw [split] at joined
      unfold splitAtPoints
      rw [split]
      cases point : c == '.' with
      | true =>
          refine ⟨List.cons_ne_nil _ _, ?_⟩
          rw [List.intercalate_cons_cons, joined, beq_iff_eq.mp point]
          rfl
      | false =>
          refine ⟨List.cons_ne_nil _ _, ?_⟩
          rw [← joined]
          cases pieces <;> simp [List.intercalate_cons_cons]

/-- A text without points stands for itself. -/
theorem splitAtPoints_of_unpointed {text : List Char} (unpointed : '.' ∉ text) :
    splitAtPoints text = [text] := by
  induction text with
  | nil => rfl
  | cons c rest ih =>
      rw [List.mem_cons, not_or] at unpointed
      have other : (c == '.') = false := beq_false_of_ne (Ne.symm unpointed.1)
      rw [splitAtPoints, other, ih unpointed.2]

/-- The first point ends the first text. -/
theorem splitAtPoints_append {front back : List Char} (unpointed : '.' ∉ front) :
    splitAtPoints (front ++ '.' :: back) = front :: splitAtPoints back := by
  induction front with
  | nil => rfl
  | cons c rest ih =>
      rw [List.mem_cons, not_or] at unpointed
      have other : (c == '.') = false := beq_false_of_ne (Ne.symm unpointed.1)
      rw [List.cons_append, splitAtPoints, other, ih unpointed.2]

theorem IsPart.unpointed {part : List Char} (accepted : IsPart part) : '.' ∉ part := by
  intro member
  have rest := accepted.chars _ member
  exact absurd rest (by decide)

theorem IsPart.ne_nil {part : List Char} (accepted : IsPart part) : part ≠ [] := by
  rintro rfl
  obtain ⟨_, head, _⟩ := accepted.starts
  cases head

theorem isAscii_of_isPart {part : String} (accepted : IsPart part.toList) : IsAscii part :=
  fun c member => isRest_lt (accepted.chars c member)

theorem isPart_of_checkPart {normalize : String → String} {part : String}
    (accepted : checkPart normalize part = .ok ()) : IsPart (normalize part).toList := by
  unfold checkPart at accepted
  split at accepted
  · cases accepted
  · exact (checkNormal_eq_ok_iff _).mp accepted

/-- A part is in normal form, and passes the check. -/
theorem checkPart_of_isPart {normalize : String → String} (laws : NormalForm normalize)
    {part : String} (accepted : IsPart part.toList) : checkPart normalize part = .ok () := by
  have nonempty : part.isEmpty = false := by
    rw [Bool.eq_false_iff, Ne, String.isEmpty_iff, ← String.toList_eq_nil_iff]
    exact accepted.ne_nil
  rw [checkPart, nonempty, laws.ascii part (isAscii_of_isPart accepted)]
  exact (checkNormal_eq_ok_iff part).mpr accepted

/-! ## Names -/

variable {normalize : String → String} {name : String}

/-- The normal form of a name that passes the check is a name. -/
theorem isName_of_check (laws : NormalForm normalize) (checked : check normalize name = .ok ()) :
    IsName (normalize name) := by
  have joined := (intercalate_splitAtPoints name.toList).2
  unfold check at checked
  split at checked
  · cases checked
  · split at checked
    · exact .plain (isPart_of_checkPart checked)
    · next schema table split =>
        obtain ⟨_, schemaChecked, tableChecked⟩ := Outcome.bind_eq_ok_iff.mp checked
        have schemaPart := isPart_of_checkPart schemaChecked
        have tablePart := isPart_of_checkPart tableChecked
        have text : name = String.ofList schema ++ "." ++ String.ofList table := by
          rw [← String.ofList_toList (s := name), ← joined, split]
          simp [String.ext_iff, List.intercalate_cons_cons]
        refine .qualified ?_ schemaPart tablePart
        rw [text, laws.point _ _ (isAscii_of_isPart schemaPart) (isAscii_of_isPart tablePart)]
        simp
    · cases checked

theorem isAscii_of_isName (named : IsName name) : IsAscii name := by
  cases named with
  | plain part => exact isAscii_of_isPart part
  | qualified text schema table =>
      intro c member
      rw [text] at member
      rcases List.mem_append.mp member with front | back
      · exact isRest_lt (schema.chars c front)
      · rcases List.mem_cons.mp back with rfl | back
        · decide
        · exact isRest_lt (table.chars c back)

/-- A name passes the check. -/
theorem check_of_isName (laws : NormalForm normalize) (named : IsName name) :
    check normalize name = .ok () := by
  have nonempty : name.isEmpty = false := by
    rw [Bool.eq_false_iff, Ne, String.isEmpty_iff, ← String.toList_eq_nil_iff]
    cases named with
    | plain part => exact part.ne_nil
    | qualified text _ _ => simp [text]
  rw [check, nonempty]
  cases named with
  | plain part =>
      rw [splitAtPoints_of_unpointed part.unpointed]
      exact checkPart_of_isPart laws part
  | @qualified schema table text schemaPart tablePart =>
      rw [text, splitAtPoints_append schemaPart.unpointed,
        splitAtPoints_of_unpointed tablePart.unpointed]
      have schemaAccepted : checkPart normalize (String.ofList schema) = .ok () :=
        checkPart_of_isPart laws (by rwa [String.toList_ofList])
      have tableAccepted : checkPart normalize (String.ofList table) = .ok () :=
        checkPart_of_isPart laws (by rwa [String.toList_ofList])
      exact Outcome.bind_eq_ok_iff.mpr ⟨(), schemaAccepted, tableAccepted⟩

/-- What is stored for an accepted name is a name. -/
theorem isName_of_accept (laws : NormalForm normalize) {stored : String}
    (accepted : accept normalize name = .ok stored) : IsName stored := by
  obtain ⟨_, checked, same⟩ := Outcome.bind_eq_ok_iff.mp accepted
  cases same
  exact isName_of_check laws checked

end EntryStore.Identifier
