import EntryStore.Double.Printer
import EntryStore.Proofs.Json.Scaling
import EntryStore.Proofs.Json.Typed

/-!
# Doubles read back

The text of a finite double is read as a number again.  Both layouts write the digits of a decimal,
with a point among them or around them and perhaps an exponent behind, and the reader collects the
digits without loss and counts the exponent back.
-/

namespace EntryStore.Json

variable {whole fraction rest : List Char} {significand n : Nat} {exponent : Int} {negative : Bool}
  {d : Decimal}

/-- The parts of a number in range are a double. -/
theorem exists_floatOfParts (known : (scaled? negative significand exponent).isSome = true)
    (rest : List Char) :
    ∃ y, floatOfParts negative significand exponent rest = .ok (.float y, rest) := by
  obtain ⟨y, scaled⟩ := Option.isSome_iff_exists.mp known
  rw [floatOfParts, scaled]
  exact ⟨y, rfl⟩

/-! ## Digits around a point, and an exponent -/

theorem fractionPart_digits (allDigits : AllDigits fraction) (nonempty : fraction ≠ [])
    (fits : Nat.ofDigitChars 10 fraction significand ≤ maxSignificand) (ends : EndsDigits rest) :
    fractionPart negative significand exponent (fraction ++ rest) =
      exponentOrEnd negative (Nat.ofDigitChars 10 fraction significand)
        (exponent - fraction.length) rest := by
  have counted : fraction.length ≠ 0 := mt List.length_eq_zero_iff.mp nonempty
  rw [fractionPart, appendDigits_digits allDigits fits ends]
  simp only [Nat.zero_add, if_neg counted]
  rfl

/-- Digits around a point are read as their number, with the exponent of the last one. -/
theorem unsignedNumber_point (isWhole : IsWhole whole) (allDigits : AllDigits fraction)
    (nonempty : fraction ≠ []) (fits : Nat.ofDigitChars 10 (whole ++ fraction) 0 ≤ maxSignificand)
    (ends : EndsDigits rest) :
    unsignedNumber negative (whole ++ '.' :: (fraction ++ rest)) =
      exponentOrEnd negative (Nat.ofDigitChars 10 (whole ++ fraction) 0)
        (-fraction.length) rest := by
  have point : EndsDigits ('.' :: (fraction ++ rest)) := by
    rintro c ⟨⟩
    decide
  rw [Nat.ofDigitChars_append] at fits ⊢
  have small := (le_ofDigitChars fraction _).trans fits
  rw [unsignedNumber_whole isWhole small point, shortInteger,
    fractionPart_digits allDigits nonempty fits ends, zero_sub]

theorem exponentDigits_digits (allDigits : AllDigits whole)
    (fits : Nat.ofDigitChars 10 whole n ≤ maxExponent) :
    exponentDigits n whole = (some (Nat.ofDigitChars 10 whole n), []) := by
  induction whole generalizing n with
  | nil => rfl
  | cons c digits ih =>
      obtain ⟨digit, allDigits⟩ := List.forall_mem_cons.mp allDigits
      rw [Nat.ofDigitChars_cons] at fits
      have small := (le_ofDigitChars digits _).trans fits
      rw [exponentDigits, digit?_of_isDigit digit]
      simp only [if_neg (Nat.not_lt.mpr small)]
      rw [ih allDigits fits, Nat.ofDigitChars_cons]

/-- The exponent that is written is counted back. -/
theorem exponentPart_toDigits (fits : n ≤ maxExponent) (down : Bool) :
    exponentPart negative significand exponent
        ((if down then '-' else '+') :: Nat.toDigits 10 n) =
      floatOfParts negative significand (if down then exponent - n else exponent + n) [] := by
  obtain ⟨first, others, digits, digit⟩ := exists_isDigit_toDigits n
  have allDigits := allDigits_toDigits n
  have value : Nat.ofDigitChars 10 (Nat.toDigits 10 n) 0 = n := Nat.ofDigitChars_ten_toDigits
  rw [digits] at allDigits value ⊢
  rw [Nat.ofDigitChars_cons, Nat.mul_zero, Nat.zero_add] at value
  have counted := exponentDigits_digits (List.forall_mem_cons.mp allDigits).2 (value.trans_le fits)
  have known := digit?_of_isDigit digit
  rw [value] at counted
  generalize first.toNat - '0'.toNat = leading at counted known
  cases down <;> simp [exponentPart, exponentSign, known, counted]

/-! ## The two layouts -/

theorem IsWhole.take (isWhole : IsWhole whole) (positive : 0 < n) : IsWhole (whole.take n) where
  allDigits := fun c member => isWhole.allDigits c (List.mem_of_mem_take member)
  leads := by
    obtain ⟨n, rfl⟩ := Nat.exists_eq_add_of_lt positive
    rcases isWhole.leads with rfl | ⟨first, others, rfl, nonzero⟩
    · exact Or.inl (by simp)
    · exact Or.inr ⟨first, others.take (0 + n), rfl, nonzero⟩

theorem toDigits_mul_pow (positive : 0 < n) (count : Nat) :
    Nat.toDigits 10 (n * 10 ^ count) = Nat.toDigits 10 n ++ List.replicate count '0' := by
  induction count with
  | zero => rw [Nat.pow_zero, Nat.mul_one, List.replicate_zero, List.append_nil]
  | succ count ih =>
      have scaled : n * 10 ^ (count + 1) = 10 * (n * 10 ^ count) + 0 := by ring
      rw [scaled, ← Nat.toDigits_append_toDigits (by decide) (by positivity) (by decide), ih,
        Nat.toDigits_zero, List.append_assoc, ← List.replicate_succ']

/-- Digits around a point have a negative exponent, and are therefore read as a double. -/
theorem exists_unsignedNumber_point (isWhole : IsWhole whole) (allDigits : AllDigits fraction)
    (nonempty : fraction ≠ [])
    (fits : Nat.ofDigitChars 10 (whole ++ fraction) 0 ≤ maxSignificand) (negative : Bool) :
    ∃ y, unsignedNumber negative (whole ++ '.' :: fraction) = .ok (.float y, []) := by
  have read := @unsignedNumber_point _ _ _ negative isWhole allDigits nonempty fits
    endsNumber_nil.endsDigits
  rw [List.append_nil] at read
  have counted := List.length_pos_iff.mpr nonempty
  have down : -(fraction.length : ℤ) < 0 := by omega
  obtain ⟨y, made⟩ := exists_floatOfParts (isSome_scaled?_of_neg down) []
  exact ⟨y, read.trans made⟩

/-- Positional notation is read as a double. -/
theorem exists_unsignedNumber_positional (positive : 0 < d.digits) (short : d.digits ≤ 10 ^ 17)
    (small : Decimal.digitCount d.digits + d.exponent ≤ 16) (negative : Bool) :
    ∃ y, unsignedNumber negative (Double.positional d ".0").toList = .ok (.float y, []) := by
  have fits : d.digits ≤ maxSignificand := short.trans (by decide)
  have value : Nat.ofDigitChars 10 (Nat.toDigits 10 d.digits) 0 = d.digits :=
    Nat.ofDigitChars_ten_toDigits
  have isWhole := isWhole_toDigits d.digits
  unfold Double.positional Double.zeros
  simp only
  split
  · next up =>
      have text : (String.ofList (Nat.toDigits 10 d.digits) ++
          String.ofList (List.replicate d.exponent.toNat '0') ++ ".0").toList =
            Nat.toDigits 10 (d.digits * 10 ^ d.exponent.toNat) ++ '.' :: ['0'] := by
        rw [toDigits_mul_pow positive]
        simp
      have bound : d.digits * 10 ^ d.exponent.toNat < 10 ^ 16 :=
        calc d.digits * 10 ^ d.exponent.toNat
          _ < 10 ^ Decimal.digitCount d.digits * 10 ^ d.exponent.toNat :=
              Nat.mul_lt_mul_of_pos_right (Decimal.lt_pow_digitCount positive) (by positivity)
          _ = 10 ^ (Decimal.digitCount d.digits + d.exponent.toNat) := (pow_add 10 _ _).symm
          _ ≤ 10 ^ 16 := Nat.pow_le_pow_right (by decide) (by omega)
      rw [text]
      refine exists_unsignedNumber_point (isWhole_toDigits _) (allDigits_toDigits 0) (by simp) ?_ _
      rw [Nat.ofDigitChars_append, Nat.ofDigitChars_ten_toDigits]
      change 10 * (d.digits * 10 ^ d.exponent.toNat) + 0 ≤ maxSignificand
      unfold maxSignificand
      omega
  · next down =>
      split
      · next inside =>
          generalize place : ((Nat.toDigits 10 d.digits).length + d.exponent).toNat = count
          have text : (String.ofList ((Nat.toDigits 10 d.digits).take count) ++ "." ++
              String.ofList ((Nat.toDigits 10 d.digits).drop count)).toList =
                (Nat.toDigits 10 d.digits).take count ++
                  '.' :: (Nat.toDigits 10 d.digits).drop count := by
            simp
          have rest : (Nat.toDigits 10 d.digits).drop count ≠ [] := by
            rw [ne_eq, List.drop_eq_nil_iff]
            omega
          rw [text]
          refine exists_unsignedNumber_point (isWhole.take (by omega))
            (fun c member => isWhole.allDigits c (List.mem_of_mem_drop member)) rest ?_ _
          rw [List.take_append_drop, value]
          exact fits
      · next outside =>
          generalize (-((Nat.toDigits 10 d.digits).length + d.exponent)).toNat = count
          have text : ("0." ++ String.ofList (List.replicate count '0') ++
              String.ofList (Nat.toDigits 10 d.digits)).toList =
                ['0'] ++ '.' :: (List.replicate count '0' ++ Nat.toDigits 10 d.digits) := by
            simp
          have allDigits : AllDigits (List.replicate count '0' ++ Nat.toDigits 10 d.digits) := by
            intro c member
            rcases List.mem_append.mp member with zero | digit
            · exact (List.eq_of_mem_replicate zero) ▸ rfl
            · exact isWhole.allDigits c digit
          have rest : List.replicate count '0' ++ Nat.toDigits 10 d.digits ≠ [] :=
            List.append_ne_nil_of_right_ne_nil _ Nat.toDigits_ne_nil
          rw [text]
          refine exists_unsignedNumber_point (isWhole_toDigits 0) allDigits rest ?_ _
          rw [Nat.ofDigitChars_append, Nat.ofDigitChars_append, Nat.ofDigitChars_replicate_zero]
          exact value.trans_le fits

/-- Digits with a point behind the first, unless it is the only one. -/
def pointed : List Char → List Char
  | [] => []
  | [digit] => [digit]
  | digit :: rest => digit :: '.' :: rest

/-- Pointed digits in front of an exponent are read as their number, with the exponent of the last
one. -/
theorem unsignedNumber_pointed (isWhole : IsWhole whole)
    (fits : Nat.ofDigitChars 10 whole 0 ≤ maxSignificand) (tail : List Char) :
    unsignedNumber negative (pointed whole ++ 'e' :: tail) =
      exponentPart negative (Nat.ofDigitChars 10 whole 0) (1 - whole.length) tail := by
  have mark : EndsDigits ('e' :: tail) := by
    rintro c ⟨⟩
    decide
  match whole, isWhole with
  | [], ⟨_, leads⟩ => simp at leads
  | [digit], isWhole => exact unsignedNumber_whole isWhole fits mark
  | digit :: second :: others, isWhole =>
      have leading : IsWhole [digit] := isWhole.take (Nat.succ_pos 0)
      have allDigits : AllDigits (second :: others) := (List.forall_mem_cons.mp isWhole.allDigits).2
      have read := @unsignedNumber_point _ _ _ negative leading allDigits (List.cons_ne_nil _ _)
        fits mark
      have places : (1 - (digit :: second :: others).length : ℤ) = -(second :: others).length := by
        simp
      rw [places]
      exact read

theorem toList_scientific (d : Decimal) :
    (Double.scientific d).toList = pointed (Nat.toDigits 10 d.digits) ++
      'e' :: (if (Nat.toDigits 10 d.digits).length + d.exponent - 1 < 0 then '-' else '+') ::
        Nat.toDigits 10 ((Nat.toDigits 10 d.digits).length + d.exponent - 1).natAbs := by
  unfold Double.scientific
  simp only [String.toList_append, Nat.toString_eq_ofList_toDigits, String.toList_ofList]
  generalize Nat.toDigits 10 (Int.natAbs _) = exponent
  have mark : (if (Nat.toDigits 10 d.digits).length + d.exponent - 1 < 0 then "e-"
      else "e+").toList =
        ['e', if (Nat.toDigits 10 d.digits).length + d.exponent - 1 < 0 then '-' else '+'] := by
    split <;> rfl
  rw [mark, List.append_assoc]
  congr 1
  match Nat.toDigits 10 d.digits with
  | [] => rfl
  | [_] => exact String.toList_ofList
  | _ :: _ :: _ => exact String.toList_ofList

/-- Scientific notation is read as the digits and the exponent that were written. -/
theorem unsignedNumber_scientific (short : d.digits ≤ 10 ^ 17)
    (limited : ((Nat.toDigits 10 d.digits).length + d.exponent - 1).natAbs ≤ maxExponent) :
    unsignedNumber negative (Double.scientific d).toList =
      floatOfParts negative d.digits d.exponent [] := by
  have value : Nat.ofDigitChars 10 (Nat.toDigits 10 d.digits) 0 = d.digits :=
    Nat.ofDigitChars_ten_toDigits
  have fits := value.trans_le (short.trans (show 10 ^ 17 ≤ maxSignificand by decide))
  have counted := @exponentPart_toDigits d.digits _ (1 - (Nat.toDigits 10 d.digits).length) negative
    limited (decide ((Nat.toDigits 10 d.digits).length + d.exponent - 1 < 0))
  rw [toList_scientific, unsignedNumber_pointed (isWhole_toDigits d.digits) fits, value]
  simp only [decide_eq_true_eq] at counted
  rw [counted]
  congr 1
  split <;> omega

/-! ## The text of a double -/

/-- The sign of a number tells how the digits behind it are read. -/
theorem number_signText {numeral : Numeral} (x : Double)
    (read : unsignedNumber x.isNegative whole = .ok (numeral, rest)) :
    number (x.signText.toList ++ whole) = .ok (numeral, rest) := by
  unfold Double.signText
  cases negative : x.isNegative with
  | true =>
      rw [negative] at read
      exact read
  | false =>
      rw [negative] at read
      have unsigned : number whole = unsignedNumber false whole := by
        cases whole with
        | nil => rfl
        | cons c whole =>
            rw [number]
            rintro _ ⟨⟩
            cases read
      exact unsigned.trans read

variable {x : Double}

/-- The text of a finite double is read as a double. -/
theorem exists_number_toJsonText (finite : x.isFinite = true) :
    ∃ y, number x.toJsonText.toList = .ok (.float y, []) := by
  unfold Double.toJsonText
  simp only [finite, Bool.not_true, Bool.false_eq_true, if_false]
  split
  · obtain ⟨y, read⟩ := exists_unsignedNumber_point (isWhole_toDigits 0) (allDigits_toDigits 0)
      Nat.toDigits_ne_nil (by decide) x.isNegative
    rw [String.toList_append]
    exact ⟨y, number_signText x read⟩
  · next notZero =>
      have nonzero := Double.significand_pos (Bool.eq_false_iff.mpr notZero)
      have writes := Double.writes_shortest nonzero .even
      have made := isSome_scaled?_shortest finite nonzero x.isNegative
      have high := writes.exponent_le finite
      generalize x.shortest .even = d at writes made high
      obtain ⟨positive, short, low, -⟩ := writes
      rw [String.toList_append]
      split
      · next inside =>
          obtain ⟨y, read⟩ :=
            exists_unsignedNumber_positional positive short (by omega) x.isNegative
          exact ⟨y, number_signText x read⟩
      · have few : Decimal.digitCount d.digits ≤ 18 := by
          rw [Decimal.digitCount_eq positive, Nat.length_toDigits_le_iff (by decide) (by decide)]
          exact short.trans_lt (by decide)
        have limited :
            ((Nat.toDigits 10 d.digits).length + d.exponent - 1).natAbs ≤ maxExponent := by
          rw [← Decimal.digitCount_eq positive]
          unfold maxExponent
          omega
        obtain ⟨y, made⟩ := exists_floatOfParts made []
        exact ⟨y, number_signText x ((unsignedNumber_scientific short limited).trans made)⟩

/-- A finite double that was written can be read. -/
theorem exists_decode_toJsonText (finite : x.isFinite = true) :
    ∃ y, Decoder.double.decode x.toJsonText = .ok y := by
  obtain ⟨y, read⟩ := exists_number_toJsonText finite
  refine ⟨y, ?_⟩
  have accepted : Decoder.double.read depthLimit x.toJsonText.toList = .ok (y, []) :=
    numberFor_of_number "f64" read rfl
  rw [Decoder.decode, readAll, accepted]
  rfl

end EntryStore.Json
