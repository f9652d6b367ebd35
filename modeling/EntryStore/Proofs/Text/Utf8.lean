import EntryStore.Proofs.Outcome
import EntryStore.Text.Utf8
import Mathlib.Algebra.Group.Nat.Defs
import Mathlib.Tactic.SplitIfs

/-!
# What is read from bytes

Strict reading is the inverse of encoding: a step reads a character exactly where the bytes of
that character stand, and bytes are read as a text exactly if they are the UTF-8 bytes of that
text.  So strict reading fails on the bytes that are no valid UTF-8, and on no others.

The bytes behind a lead byte carry the number of a character six bits at a time.  Which lead
bytes exist and what they allow for the second byte rules out the numbers that are no
characters, and those that fewer bytes would have carried.
-/

namespace EntryStore.Text

/-! ## The bytes of a character -/

/-- The byte that carries the lowest six bits of a number. -/
def continuationByte (number : Nat) : UInt8 := UInt8.ofNat (number % 64 + 0x80)

/-- The bytes behind a lead byte: `count` groups of six bits, the highest one first. -/
def continuationBytes (number : Nat) : (count : Nat) → List UInt8
  | 0 => []
  | count + 1 => continuationByte (number / 64 ^ count) :: continuationBytes number count

@[simp] theorem toNat_continuationByte (number : Nat) :
    (continuationByte number).toNat = number % 64 + 0x80 := by
  rw [continuationByte, UInt8.toNat_ofNat']
  omega

theorem utf8EncodeChar_of_le_7F {c : Char} (small : c.val.toNat ≤ 0x7F) :
    String.utf8EncodeChar c = [UInt8.ofNat c.val.toNat] := by
  rw [String.utf8EncodeChar, if_pos small]

theorem utf8EncodeChar_of_le_7FF {c : Char} (past : 0x7F < c.val.toNat)
    (small : c.val.toNat ≤ 0x7FF) :
    String.utf8EncodeChar c =
      UInt8.ofNat (c.val.toNat / 64 + 0xC0) :: continuationBytes c.val.toNat 1 := by
  have upper : c.val.toNat / 64 % 32 = c.val.toNat / 64 := by omega
  rw [String.utf8EncodeChar, if_neg (by omega), if_pos small, upper]
  simp [continuationBytes, continuationByte]

theorem utf8EncodeChar_of_le_FFFF {c : Char} (past : 0x7FF < c.val.toNat)
    (small : c.val.toNat ≤ 0xFFFF) :
    String.utf8EncodeChar c =
      UInt8.ofNat (c.val.toNat / 4096 + 0xE0) :: continuationBytes c.val.toNat 2 := by
  have upper : c.val.toNat / 4096 % 16 = c.val.toNat / 4096 := by omega
  rw [String.utf8EncodeChar, if_neg (by omega), if_neg (by omega), if_pos small, upper]
  simp [continuationBytes, continuationByte]

theorem utf8EncodeChar_of_gt_FFFF {c : Char} (past : 0xFFFF < c.val.toNat) :
    String.utf8EncodeChar c =
      UInt8.ofNat (c.val.toNat / 262144 + 0xF0) :: continuationBytes c.val.toNat 3 := by
  have last : c.val.toNat < 0x110000 := by
    obtain early | ⟨-, late⟩ := c.valid
    · exact Nat.lt_trans early (by decide)
    · exact late
  have upper : c.val.toNat / 262144 % 8 = c.val.toNat / 262144 := by omega
  rw [String.utf8EncodeChar, if_neg (by omega), if_neg (by omega), if_neg (by omega), upper]
  simp [continuationBytes, continuationByte]

theorem toNat_ofNat_of_isValidChar {number : Nat} (valid : number.isValidChar) :
    (Char.ofNat number).val.toNat = number := by
  rw [Char.ofNat, dif_pos valid]
  rfl

/-! ## Behind the lead byte -/

theorem continuation?_eq_some_iff {byte : UInt8} {bits : Nat} :
    continuation? byte = some bits ↔ bits < 64 ∧ byte = continuationByte bits := by
  rw [continuation?, Option.ite_none_right_eq_some, Option.some.injEq, ← UInt8.toNat_inj,
    toNat_continuationByte, UInt8.le_iff_toNat_le, UInt8.le_iff_toNat_le]
  simp only [UInt8.reduceToNat]
  omega

theorem continuation?_continuationByte (number : Nat) :
    continuation? (continuationByte number) = some (number % 64) := by
  rw [continuation?_eq_some_iff, ← UInt8.toNat_inj]
  simp only [toNat_continuationByte]
  omega

/-- Reading the bytes behind a lead byte completes a number of which the upper bits are read. -/
theorem utf8Tail_eq_char_iff {read value missing : Nat} {bytes after : List UInt8} {c : Char} :
    utf8Tail read value missing bytes = .char c after ↔
      ∃ number, number / 64 ^ missing = value ∧ c = Char.ofNat number ∧
        bytes = continuationBytes number missing ++ after := by
  induction missing generalizing read value bytes with
  | zero => simp [utf8Tail, continuationBytes, eq_comm]
  | succ missing ih =>
      cases bytes with
      | nil => simp [utf8Tail, continuationBytes]
      | cons byte bytes =>
          simp only [continuationBytes, List.cons_append, List.cons.injEq]
          cases known : continuation? byte with
          | none =>
              simp only [utf8Tail, known, reduceCtorEq, false_iff, not_exists]
              rintro number ⟨-, -, rfl, -⟩
              rw [continuation?_continuationByte] at known
              cases known
          | some bits =>
              obtain ⟨small, rfl⟩ := continuation?_eq_some_iff.mp known
              simp only [utf8Tail, known, ih, ← UInt8.toNat_inj, toNat_continuationByte]
              refine exists_congr fun number => ?_
              -- the upper bits before this byte are those behind it without the last six
              rw [Nat.pow_succ, ← Nat.div_div_eq_div_mul]
              constructor
              · rintro ⟨upper, rfl, rfl⟩
                exact ⟨by omega, rfl, by omega, rfl⟩
              · rintro ⟨upper, rfl, same, rfl⟩
                exact ⟨by omega, rfl, rfl⟩

theorem secondByteRange_within (lead : UInt8) :
    0x80 ≤ (secondByteRange lead).1 ∧ (secondByteRange lead).2 ≤ 0xBF := by
  unfold secondByteRange
  split_ifs <;> decide

/-- The second byte is read as the others are, but only within the range its lead byte sets. -/
theorem utf8Second_eq_char_iff {lead : UInt8} {value missing : Nat} {bytes after : List UInt8}
    {c : Char} :
    utf8Second lead value (missing + 1) bytes = .char c after ↔
      ∃ number, number / 64 ^ (missing + 1) = value ∧
        ((secondByteRange lead).1 ≤ continuationByte (number / 64 ^ missing) ∧
          continuationByte (number / 64 ^ missing) ≤ (secondByteRange lead).2) ∧
        c = Char.ofNat number ∧ bytes = continuationBytes number (missing + 1) ++ after := by
  cases bytes with
  | nil => simp [utf8Second, continuationBytes]
  | cons byte bytes =>
      by_cases allowed : (secondByteRange lead).1 ≤ byte ∧ byte ≤ (secondByteRange lead).2
      · have continues : continuation? byte = some (byte.toNat % 64) := by
          obtain ⟨base, top⟩ := secondByteRange_within lead
          exact if_pos ⟨UInt8.le_trans base allowed.1, UInt8.le_trans allowed.2 top⟩
        have same : utf8Second lead value (missing + 1) (byte :: bytes) =
            utf8Tail 1 value (missing + 1) (byte :: bytes) := by
          simp only [utf8Second, allowed, and_self, if_true, utf8Tail, continues,
            Nat.add_sub_cancel]
        rw [same, utf8Tail_eq_char_iff]
        refine exists_congr fun number => and_congr_right fun upper => ?_
        constructor
        · rintro ⟨named, spelled⟩
          obtain ⟨rfl, -⟩ := List.cons.inj spelled
          exact ⟨allowed, named, spelled⟩
        · rintro ⟨-, named, spelled⟩
          exact ⟨named, spelled⟩
      · simp only [utf8Second, allowed, if_false, reduceCtorEq, false_iff, not_exists]
        rintro number ⟨-, within, -, spelled⟩
        obtain ⟨rfl, -⟩ := List.cons.inj spelled
        exact allowed within

/-! ## What lead bytes allow -/

/-- Behind the lead byte of two bytes there may be any continuation. -/
theorem within_secondByteRange_two {lead : UInt8} (low : 0xC2 ≤ lead.toNat)
    (high : lead.toNat < 0xE0) (number : Nat) :
    (secondByteRange lead).1 ≤ continuationByte number ∧
      continuationByte number ≤ (secondByteRange lead).2 := by
  simp only [secondByteRange, ← UInt8.toNat_inj, UInt8.le_iff_toNat_le, UInt8.reduceToNat]
  rw [if_neg (by omega), if_neg (by omega), if_neg (by omega), if_neg (by omega)]
  simp only [toNat_continuationByte, UInt8.reduceToNat]
  omega

/-- The lead byte of three bytes rules out overlong forms and surrogates. -/
theorem within_secondByteRange_three_iff {lead : UInt8} {number : Nat}
    (upper : number / 4096 + 0xE0 = lead.toNat) (high : lead.toNat < 0xF0) :
    ((secondByteRange lead).1 ≤ continuationByte (number / 64) ∧
      continuationByte (number / 64) ≤ (secondByteRange lead).2) ↔
      0x7FF < number ∧ (number < 0xD800 ∨ 0xDFFF < number) := by
  simp only [secondByteRange, ← UInt8.toNat_inj, UInt8.le_iff_toNat_le, UInt8.reduceToNat]
  split_ifs <;> simp only [toNat_continuationByte, UInt8.reduceToNat] <;> omega

/-- The lead byte of four bytes rules out overlong forms and numbers past the last one. -/
theorem within_secondByteRange_four_iff {lead : UInt8} {number : Nat}
    (upper : number / 262144 + 0xF0 = lead.toNat) (high : lead.toNat < 0xF5) :
    ((secondByteRange lead).1 ≤ continuationByte (number / 4096) ∧
      continuationByte (number / 4096) ≤ (secondByteRange lead).2) ↔
      0xFFFF < number ∧ number < 0x110000 := by
  simp only [secondByteRange, ← UInt8.toNat_inj, UInt8.le_iff_toNat_le, UInt8.reduceToNat]
  split_ifs <;> simp only [toNat_continuationByte, UInt8.reduceToNat] <;> omega

theorem utf8Step_two {lead : UInt8} (low : 0xC2 ≤ lead.toNat) (high : lead.toNat < 0xE0)
    (bytes : List UInt8) :
    utf8Step lead bytes = utf8Second lead (lead.toNat % 32) 1 bytes := by
  simp only [utf8Step, UInt8.lt_iff_toNat_lt, UInt8.reduceToNat]
  rw [if_neg (by omega), if_neg (by omega), if_pos high]

theorem utf8Step_three {lead : UInt8} (low : 0xE0 ≤ lead.toNat) (high : lead.toNat < 0xF0)
    (bytes : List UInt8) :
    utf8Step lead bytes = utf8Second lead (lead.toNat % 16) 2 bytes := by
  simp only [utf8Step, UInt8.lt_iff_toNat_lt, UInt8.reduceToNat]
  rw [if_neg (by omega), if_neg (by omega), if_neg (by omega), if_pos high]

theorem utf8Step_four {lead : UInt8} (low : 0xF0 ≤ lead.toNat) (high : lead.toNat < 0xF5)
    (bytes : List UInt8) :
    utf8Step lead bytes = utf8Second lead (lead.toNat % 8) 3 bytes := by
  simp only [utf8Step, UInt8.lt_iff_toNat_lt, UInt8.reduceToNat]
  rw [if_neg (by omega), if_neg (by omega), if_neg (by omega), if_neg (by omega), if_pos high]

/-! ## Characters -/

/-- The bytes of a character are read as that character. -/
theorem utf8Step_of_utf8EncodeChar {lead : UInt8} {bytes after : List UInt8} {c : Char}
    (encoded : lead :: bytes = String.utf8EncodeChar c ++ after) :
    utf8Step lead bytes = .char c after := by
  have named : c = Char.ofNat c.val.toNat := (Char.ofNat_toNat c).symm
  have valid : c.val.toNat.isValidChar := c.valid
  rw [Nat.isValidChar] at valid
  generalize number_eq : c.val.toNat = number at named valid
  obtain one | ⟨past, two⟩ | ⟨past, three⟩ | four : number ≤ 0x7F ∨
      (0x7F < number ∧ number ≤ 0x7FF) ∨ (0x7FF < number ∧ number ≤ 0xFFFF) ∨
      0xFFFF < number := by omega
  · rw [utf8EncodeChar_of_le_7F (number_eq ▸ one), number_eq] at encoded
    obtain ⟨rfl, rfl⟩ := List.cons.inj encoded
    have first : (UInt8.ofNat number).toNat = number :=
      UInt8.toNat_ofNat_of_lt' (show _ < 256 by omega)
    have ascii : UInt8.ofNat number < 0x80 := by
      rw [UInt8.lt_iff_toNat_lt, first]
      exact Nat.lt_succ_of_le one
    rw [utf8Step, if_pos ascii, first, named]
  · rw [utf8EncodeChar_of_le_7FF (number_eq ▸ past) (number_eq ▸ two), number_eq] at encoded
    obtain ⟨rfl, rfl⟩ := List.cons.inj encoded
    have first : (UInt8.ofNat (number / 64 + 0xC0)).toNat = number / 64 + 0xC0 :=
      UInt8.toNat_ofNat_of_lt' (show _ < 256 by omega)
    rw [utf8Step_two (by omega) (by omega), utf8Second_eq_char_iff]
    exact ⟨number, by omega, within_secondByteRange_two (by omega) (by omega) _, named, rfl⟩
  · rw [utf8EncodeChar_of_le_FFFF (number_eq ▸ past) (number_eq ▸ three), number_eq] at encoded
    obtain ⟨rfl, rfl⟩ := List.cons.inj encoded
    have first : (UInt8.ofNat (number / 4096 + 0xE0)).toNat = number / 4096 + 0xE0 :=
      UInt8.toNat_ofNat_of_lt' (show _ < 256 by omega)
    rw [utf8Step_three (by omega) (by omega), utf8Second_eq_char_iff]
    have within := (within_secondByteRange_three_iff first.symm (by omega)).mpr ⟨past, by omega⟩
    exact ⟨number, by omega, by simpa using within, named, rfl⟩
  · rw [utf8EncodeChar_of_gt_FFFF (number_eq ▸ four), number_eq] at encoded
    obtain ⟨rfl, rfl⟩ := List.cons.inj encoded
    have first : (UInt8.ofNat (number / 262144 + 0xF0)).toNat = number / 262144 + 0xF0 :=
      UInt8.toNat_ofNat_of_lt' (show _ < 256 by omega)
    rw [utf8Step_four (by omega) (by omega), utf8Second_eq_char_iff]
    have within := (within_secondByteRange_four_iff first.symm (by omega)).mpr ⟨four, by omega⟩
    exact ⟨number, by omega, by simpa using within, named, rfl⟩

/-- What is read as a character is the bytes of that character. -/
theorem utf8EncodeChar_of_utf8Step {lead : UInt8} {bytes after : List UInt8} {c : Char}
    (read : utf8Step lead bytes = .char c after) :
    lead :: bytes = String.utf8EncodeChar c ++ after := by
  have small : lead.toNat < 256 := lead.toNat_lt
  obtain one | none | two | three | four | last : lead.toNat < 0x80 ∨
      (0x80 ≤ lead.toNat ∧ lead.toNat < 0xC2) ∨ (0xC2 ≤ lead.toNat ∧ lead.toNat < 0xE0) ∨
      (0xE0 ≤ lead.toNat ∧ lead.toNat < 0xF0) ∨ (0xF0 ≤ lead.toNat ∧ lead.toNat < 0xF5) ∨
      0xF5 ≤ lead.toNat := by omega
  · rw [utf8Step, if_pos (UInt8.lt_iff_toNat_lt.mpr one)] at read
    obtain ⟨rfl, rfl⟩ := Utf8Step.char.inj read
    have number_eq : (Char.ofNat lead.toNat).val.toNat = lead.toNat :=
      toNat_ofNat_of_isValidChar (.inl (by omega))
    rw [utf8EncodeChar_of_le_7F (by omega), number_eq, UInt8.ofNat_toNat]
    rfl
  · simp only [utf8Step, UInt8.lt_iff_toNat_lt, UInt8.reduceToNat] at read
    rw [if_neg (by omega), if_pos none.2] at read
    cases read
  · rw [utf8Step_two two.1 two.2, utf8Second_eq_char_iff] at read
    obtain ⟨number, upper, -, rfl, rfl⟩ := read
    have first : number / 64 + 0xC0 = lead.toNat := by omega
    have number_eq : (Char.ofNat number).val.toNat = number :=
      toNat_ofNat_of_isValidChar (.inl (by omega))
    rw [utf8EncodeChar_of_le_7FF (by omega) (by omega), number_eq, first, UInt8.ofNat_toNat]
    rfl
  · rw [utf8Step_three three.1 three.2, utf8Second_eq_char_iff] at read
    obtain ⟨number, upper, within, rfl, rfl⟩ := read
    have first : number / 4096 + 0xE0 = lead.toNat := by omega
    obtain ⟨past, valid⟩ := (within_secondByteRange_three_iff first three.2).mp
      (by simpa using within)
    have number_eq : (Char.ofNat number).val.toNat = number :=
      toNat_ofNat_of_isValidChar (valid.imp id fun late => ⟨late, by omega⟩)
    rw [utf8EncodeChar_of_le_FFFF (by omega) (by omega), number_eq, first, UInt8.ofNat_toNat]
    rfl
  · rw [utf8Step_four four.1 four.2, utf8Second_eq_char_iff] at read
    obtain ⟨number, upper, within, rfl, rfl⟩ := read
    have first : number / 262144 + 0xF0 = lead.toNat := by omega
    obtain ⟨past, valid⟩ := (within_secondByteRange_four_iff first four.2).mp
      (by simpa using within)
    have number_eq : (Char.ofNat number).val.toNat = number :=
      toNat_ofNat_of_isValidChar (.inr ⟨by omega, valid⟩)
    rw [utf8EncodeChar_of_gt_FFFF (by omega), number_eq, first, UInt8.ofNat_toNat]
    rfl
  · simp only [utf8Step, UInt8.lt_iff_toNat_lt, UInt8.reduceToNat] at read
    rw [if_neg (by omega), if_neg (by omega), if_neg (by omega), if_neg (by omega),
      if_neg (by omega)] at read
    cases read

/-! ## Texts -/

theorem nil_eq_flatMap_utf8EncodeChar_iff {text : List Char} :
    [] = text.flatMap String.utf8EncodeChar ↔ text = [] := by
  cases text with
  | nil => simp
  | cons c text => simp [eq_comm (a := ([] : List UInt8)), String.utf8EncodeChar_ne_nil]

theorem length_le_of_utf8EncodeChar {lead : UInt8} {bytes after : List UInt8} {c : Char}
    (spelled : lead :: bytes = String.utf8EncodeChar c ++ after) :
    after.length ≤ bytes.length := by
  have lengths := congrArg List.length spelled
  have character := c.utf8Size_pos
  rw [List.length_cons, List.length_append, String.length_utf8EncodeChar] at lengths
  omega

/-- With fuel for all bytes, strict reading gives the characters that the bytes spell. -/
theorem utf8Decode_eq_ok_iff {index fuel : Nat} {bytes : List UInt8} {text : List Char}
    (enough : bytes.length ≤ fuel) :
    utf8Decode index fuel bytes = .ok text ↔ bytes = text.flatMap String.utf8EncodeChar := by
  induction fuel generalizing index bytes text with
  | zero =>
      obtain rfl := List.length_eq_zero_iff.mp (Nat.le_zero.mp enough)
      rw [utf8Decode, Except.ok.injEq, nil_eq_flatMap_utf8EncodeChar_iff, eq_comm]
  | succ fuel ih =>
      cases bytes with
      | nil =>
          rw [nil_eq_flatMap_utf8EncodeChar_iff]
          simp [utf8Decode, eq_comm]
      | cons lead bytes =>
          rw [List.length_cons, Nat.add_le_add_iff_right] at enough
          constructor
          · intro done
            rw [utf8Decode] at done
            cases step : utf8Step lead bytes with
            | char c after =>
                simp only [step] at done
                have spelled := utf8EncodeChar_of_utf8Step step
                obtain ⟨rest, later, finished⟩ := Outcome.bind_eq_ok_iff.mp done
                cases finished
                rw [ih (Nat.le_trans (length_le_of_utf8EncodeChar spelled) enough)] at later
                rw [spelled, List.flatMap_cons, later]
            | invalid count after => simp [step] at done
            | incomplete => simp [step] at done
          · intro spelled
            cases text with
            | nil => cases spelled
            | cons c text =>
                rw [List.flatMap_cons] at spelled
                have later : utf8Decode (index + c.utf8Size) fuel
                    (text.flatMap String.utf8EncodeChar) = .ok text :=
                  (ih (Nat.le_trans (length_le_of_utf8EncodeChar spelled) enough)).mpr rfl
                rw [utf8Decode, utf8Step_of_utf8EncodeChar spelled]
                exact Outcome.bind_eq_ok_iff.mpr ⟨text, later, rfl⟩

/-- A text is read exactly from its own bytes. -/
theorem ofUtf8_eq_ok_iff {bytes : List UInt8} {text : String} :
    ofUtf8 bytes = .ok text ↔ text.toByteArray = bytes.toByteArray := by
  have spelled : text.toByteArray = text.toList.utf8Encode := by
    rw [← String.toByteArray_ofList, String.ofList_toList]
  rw [ofUtf8, Outcome.map_eq_ok_iff, spelled, List.utf8Encode, List.toByteArray_inj, eq_comm]
  constructor
  · rintro ⟨characters, done, rfl⟩
    rw [String.toList_ofList]
    exact (utf8Decode_eq_ok_iff (Nat.le_refl _)).mp done
  · intro written
    exact ⟨text.toList, (utf8Decode_eq_ok_iff (Nat.le_refl _)).mpr written, String.ofList_toList⟩

/-- Strict reading succeeds exactly on valid UTF-8. -/
theorem exists_ofUtf8_iff {bytes : List UInt8} :
    (∃ text, ofUtf8 bytes = .ok text) ↔ bytes.toByteArray.IsValidUTF8 := by
  constructor
  · rintro ⟨text, done⟩
    exact ofUtf8_eq_ok_iff.mp done ▸ text.isValidUTF8
  · rintro ⟨characters, spelled⟩
    exact ⟨String.ofList characters,
      ofUtf8_eq_ok_iff.mpr (by rw [String.toByteArray_ofList, spelled])⟩

end EntryStore.Text
