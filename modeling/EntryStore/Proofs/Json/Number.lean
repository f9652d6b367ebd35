import EntryStore.Json.Number

/-!
# Digits read back

Decimal digits are collected without loss as long as their number fits the significand, and those
without leading zeros are read as a whole number.  An integer of 64 bits, with sign or without, is
therefore read as it was written: nothing turns it into a double as long as what follows does not
continue the number.
-/

namespace EntryStore.Json

/-- No digit stands in front of a text. -/
def EndsDigits (text : List Char) : Prop := ∀ c ∈ text.head?, digit? c = none

/-- A text does not continue a number that stands in front of it. -/
def EndsNumber (text : List Char) : Prop :=
  ∀ c ∈ text.head?, digit? c = none ∧ c ≠ '.' ∧ c ≠ 'e' ∧ c ≠ 'E'

/-- A text of decimal digits. -/
def AllDigits (text : List Char) : Prop := ∀ c ∈ text, c.isDigit = true

variable {digits rest after : List Char} {c : Char} {significand count : Nat} {negative : Bool}

theorem endsNumber_nil : EndsNumber [] := nofun

theorem EndsNumber.endsDigits (ends : EndsNumber rest) : EndsDigits rest :=
  fun c first => (ends c first).1

theorem digit?_of_isDigit (digit : c.isDigit = true) : digit? c = some (c.toNat - '0'.toNat) := by
  rw [Char.isDigit, Bool.and_eq_true, decide_eq_true_eq, decide_eq_true_eq] at digit
  exact if_pos digit

theorem startsNumber_of_isDigit (digit : c.isDigit = true) : startsNumber c = true := by
  rw [startsNumber, digit?_of_isDigit digit]
  exact Bool.or_true _

theorem ne_of_isDigit {other : Char} (digit : c.isDigit = true) (differs : other.isDigit = false) :
    c ≠ other := by
  rintro rfl
  exact Bool.false_ne_true (differs.symm.trans digit)

theorem allDigits_toDigits (n : Nat) : AllDigits (Nat.toDigits 10 n) :=
  fun _ member => Nat.isDigit_of_mem_toDigits (by decide) (by decide) member

theorem exists_isDigit_toDigits (n : Nat) :
    ∃ first others, Nat.toDigits 10 n = first :: others ∧ first.isDigit = true := by
  obtain ⟨first, others, digits⟩ := List.exists_cons_of_ne_nil (@Nat.toDigits_ne_nil n 10)
  exact ⟨first, others, digits, allDigits_toDigits n first (digits ▸ List.mem_cons_self)⟩

theorem le_ofDigitChars (digits : List Char) (significand : Nat) :
    significand ≤ Nat.ofDigitChars 10 digits significand := by
  rw [Nat.ofDigitChars_eq_ofDigitChars_zero]
  exact Nat.le_trans (Nat.le_mul_of_pos_left _ (Nat.pow_pos (by decide))) (Nat.le_add_right _ _)

/-! ## Runs of digits -/

/-- Digits are appended to a significand if the number that they make fits. -/
theorem appendDigits_digits (allDigits : AllDigits digits)
    (fits : Nat.ofDigitChars 10 digits significand ≤ maxSignificand) (ends : EndsDigits rest) :
    appendDigits significand count (digits ++ rest) =
      ⟨Nat.ofDigitChars 10 digits significand, count + digits.length, false, rest⟩ := by
  induction digits generalizing significand count with
  | nil =>
      cases rest with
      | nil => rfl
      | cons c rest =>
          rw [List.nil_append, appendDigits, ends c rfl]
          rfl
  | cons c digits ih =>
      obtain ⟨digit, allDigits⟩ := List.forall_mem_cons.mp allDigits
      rw [Nat.ofDigitChars_cons] at fits
      have small := Nat.le_trans (le_ofDigitChars digits _) fits
      rw [List.cons_append, appendDigits, digit?_of_isDigit digit]
      simp only [if_neg (Nat.not_lt.mpr small)]
      rw [ih allDigits fits, Nat.ofDigitChars_cons, List.length_cons, Nat.add_right_comm,
        Nat.add_assoc]

/-- The digits of a whole number: no zero leads but the only one. -/
structure IsWhole (digits : List Char) : Prop where
  allDigits : AllDigits digits
  leads : digits = ['0'] ∨ ∃ first others, digits = first :: others ∧ first ≠ '0'

theorem digitChar_ne_zero {digit : Nat} (small : digit < 10) (positive : 0 < digit) :
    Nat.digitChar digit ≠ '0' := by
  revert digit
  decide

theorem exists_toDigits {n : Nat} (positive : 0 < n) :
    ∃ first others, Nat.toDigits 10 n = first :: others ∧ first ≠ '0' := by
  induction n using Nat.strongRecOn with
  | ind n ih =>
      rcases Nat.lt_or_ge n 10 with small | large
      · exact ⟨_, [], Nat.toDigits_of_lt_base small, digitChar_ne_zero small positive⟩
      · obtain ⟨first, others, digits, nonzero⟩ :=
          ih (n / 10) (Nat.div_lt_self positive (by decide)) (Nat.div_pos large (by decide))
        rw [Nat.toDigits_of_base_le (by decide) large, digits]
        exact ⟨first, _, rfl, nonzero⟩

theorem isWhole_toDigits (n : Nat) : IsWhole (Nat.toDigits 10 n) where
  allDigits := allDigits_toDigits n
  leads := by
    rcases Nat.eq_zero_or_pos n with rfl | positive
    · exact Or.inl (Nat.toDigits_zero 10)
    · exact Or.inr (exists_toDigits positive)

/-- The digits of a whole number that fits are read as it. -/
theorem unsignedNumber_whole (whole : IsWhole digits)
    (fits : Nat.ofDigitChars 10 digits 0 ≤ maxSignificand) (ends : EndsDigits rest) :
    unsignedNumber negative (digits ++ rest) =
      shortInteger negative (Nat.ofDigitChars 10 digits 0) rest := by
  obtain ⟨allDigits, rfl | ⟨first, others, rfl, nonzero⟩⟩ := whole
  · cases rest with
    | nil => rfl
    | cons c rest =>
        change (if (digit? c).isSome then _ else _) = _
        rw [ends c rfl]
        rfl
  · obtain ⟨digit, allDigits⟩ := List.forall_mem_cons.mp allDigits
    rw [Nat.ofDigitChars_cons, Nat.mul_zero, Nat.zero_add] at fits ⊢
    rw [List.cons_append, unsignedNumber]
    · simp only [digit?_of_isDigit digit, appendDigits_digits allDigits fits ends]
      rfl
    · exact nonzero

theorem unsignedNumber_toDigits {magnitude : Nat} (fits : magnitude ≤ maxSignificand)
    (ends : EndsDigits rest) :
    unsignedNumber negative (Nat.toDigits 10 magnitude ++ rest) =
      shortInteger negative magnitude rest := by
  have value : Nat.ofDigitChars 10 (Nat.toDigits 10 magnitude) 0 = magnitude :=
    Nat.ofDigitChars_ten_toDigits
  rw [unsignedNumber_whole (isWhole_toDigits magnitude) (value.symm ▸ fits) ends, value]

/-- What is read as a number begins like one. -/
theorem startsNumber_of_number {numeral : Numeral}
    (read : number (c :: rest) = .ok (numeral, after)) : startsNumber c = true := by
  unfold number unsignedNumber at read
  split at read
  · next same => exact (List.cons.inj same).1 ▸ rfl
  · split at read
    · contradiction
    · next same => exact (List.cons.inj same).1 ▸ rfl
    · next same =>
        obtain ⟨rfl, rfl⟩ := List.cons.inj same
        cases known : digit? c with
        | none =>
            simp only [known] at read
            cases read
        | some digit =>
            rw [startsNumber, known]
            exact Bool.or_true _

theorem number_of_isDigit (digit : c.isDigit = true) (rest : List Char) :
    number (c :: rest) = unsignedNumber false (c :: rest) := by
  rw [number]
  exact fun _ same => ne_of_isDigit digit rfl (List.cons.inj same).1

/-- What an integral part becomes that nothing continues. -/
theorem shortInteger_of_ends (ends : EndsNumber rest) :
    shortInteger negative significand rest =
      if negative then
        if 0 < significand ∧ significand ≤ 0x8000000000000000 then
          .ok (.integer (-significand), rest)
        else .ok (.float (-(Double.ofNat significand)), rest)
      else .ok (.integer significand, rest) := by
  cases rest with
  | nil => rfl
  | cons c rest =>
      obtain ⟨_, point, small, capital⟩ := ends c rfl
      rw [shortInteger]
      · exact fun _ same => point (List.cons.inj same).1
      · exact fun _ same => small (List.cons.inj same).1
      · exact fun _ same => capital (List.cons.inj same).1

/-! ## Integers of 64 bits -/

/-- An integer of 64 bits, with sign or without. -/
def IsWordSized (n : Int) : Prop := -0x8000000000000000 ≤ n ∧ n ≤ 0xFFFFFFFFFFFFFFFF

instance (n : Int) : Decidable (IsWordSized n) := inferInstanceAs (Decidable (_ ∧ _))

theorem IsWordSized.of_int64 (n : Int64) : IsWordSized n.toInt := by
  have low := n.le_toInt
  have high := n.toInt_lt
  constructor <;> omega

/-- An integer begins like a number. -/
theorem exists_integerChars (n : Int) :
    ∃ first others, integerChars n = first :: others ∧ startsNumber first = true := by
  cases n with
  | ofNat magnitude =>
      obtain ⟨first, others, digits, digit⟩ := exists_isDigit_toDigits magnitude
      exact ⟨first, others, digits, startsNumber_of_isDigit digit⟩
  | negSucc magnitude => exact ⟨'-', _, rfl, rfl⟩

/-- An integer is read back. -/
theorem number_integerChars {n : Int} (sized : IsWordSized n) (ends : EndsNumber rest) :
    number (integerChars n ++ rest) = .ok (.integer n, rest) := by
  obtain ⟨low, high⟩ := sized
  cases n with
  | ofNat magnitude =>
      have fits : magnitude ≤ maxSignificand := Int.ofNat_le.mp high
      obtain ⟨first, others, digits, digit⟩ := exists_isDigit_toDigits magnitude
      have unsigned : number (Nat.toDigits 10 magnitude ++ rest) =
          unsignedNumber false (Nat.toDigits 10 magnitude ++ rest) := by
        rw [digits]
        exact number_of_isDigit digit _
      change number (Nat.toDigits 10 magnitude ++ rest) = _
      rw [unsigned, unsignedNumber_toDigits fits ends.endsDigits, shortInteger_of_ends ends]
      rfl
  | negSucc magnitude =>
      have fits : magnitude + 1 ≤ maxSignificand := by
        unfold maxSignificand
        omega
      change unsignedNumber true (Nat.toDigits 10 (magnitude + 1) ++ rest) = _
      rw [unsignedNumber_toDigits fits ends.endsDigits, shortInteger_of_ends ends, if_pos rfl,
        if_pos]
      · rfl
      · omega

end EntryStore.Json
