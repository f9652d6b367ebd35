import EntryStore.Double.Shortest
import EntryStore.Proofs.Double.Rounding

/-!
# The digits of a double

The decimal that is written for a number lies among the fractions that round to it, and it has at
most 17 digits: these fractions fill an interval that is wider than the steps of the grid with 17
digits, so one of the two decimals next to the number lies in it.
-/

namespace EntryStore

namespace Decimal

/-- The fraction that a decimal stands for. -/
def value (d : Decimal) : ℚ := d.numerator / d.denominator

theorem value_eq (d : Decimal) : d.value = d.digits * 10 ^ d.exponent := by
  have power := Double.zpow_eq_div (OfNat.ofNat_ne_zero (R := ℚ) 10) d.exponent
  rw [value, numerator, denominator, power]
  simp only [Nat.pow_eq, Nat.cast_mul, Nat.cast_pow, Nat.cast_ofNat, mul_div_assoc]

theorem denominator_pos (d : Decimal) : 0 < d.denominator := Nat.pow_pos (by decide)

/-! ## Trailing zeros -/

@[simp] theorem value_stripZeros (d : Decimal) (limit : Nat) :
    (d.stripZeros limit).value = d.value := by
  induction limit generalizing d with
  | zero => rfl
  | succ limit ih =>
      rw [stripZeros]
      split
      · next stripped =>
          have whole : (d.digits : ℚ) = 10 * (d.digits / 10 : Nat) := by
            exact_mod_cast (Nat.mul_div_cancel' (Nat.dvd_of_mod_eq_zero stripped.1)).symm
          rw [ih, value_eq, value_eq, whole, zpow_add_one₀ (by norm_num)]
          ring
      · rfl

theorem digits_stripZeros_pos (d : Decimal) (limit : Nat) (positive : 0 < d.digits) :
    0 < (d.stripZeros limit).digits := by
  induction limit generalizing d with
  | zero => exact positive
  | succ limit ih =>
      rw [stripZeros]
      split
      · next stripped => exact ih _ (show 0 < d.digits / 10 by omega)
      · exact positive

theorem digits_stripZeros_le (d : Decimal) (limit : Nat) :
    (d.stripZeros limit).digits ≤ d.digits := by
  induction limit generalizing d with
  | zero => exact le_rfl
  | succ limit ih =>
      rw [stripZeros]
      split
      · exact (ih _).trans (Nat.div_le_self _ _)
      · exact le_rfl

theorem exponent_le_stripZeros (d : Decimal) (limit : Nat) :
    d.exponent ≤ (d.stripZeros limit).exponent := by
  induction limit generalizing d with
  | zero => exact le_rfl
  | succ limit ih =>
      rw [stripZeros]
      split
      · exact (Int.le_add_of_nonneg_right (by decide)).trans (ih _)
      · exact le_rfl

/-! ## Counting digits -/

variable {n : Nat}

theorem digitCount_eq (positive : 0 < n) : digitCount n = (Nat.toDigits 10 n).length :=
  if_neg positive.ne'

theorem digitCount_pos (positive : 0 < n) : 0 < digitCount n := by
  rw [digitCount_eq positive]
  exact Nat.length_toDigits_pos

theorem lt_pow_digitCount (positive : 0 < n) : n < 10 ^ digitCount n := by
  have counted := digitCount_pos positive
  rw [digitCount_eq positive] at counted ⊢
  exact (Nat.length_toDigits_le_iff (by decide) counted).mp le_rfl

theorem pow_digitCount_le (positive : 0 < n) : 10 ^ (digitCount n - 1) ≤ n := by
  rcases Nat.eq_zero_or_pos (digitCount n - 1) with single | several
  · rw [single]
    exact positive
  · have fewer : ¬ digitCount n ≤ digitCount n - 1 := by omega
    rw [digitCount_eq positive] at fewer several ⊢
    exact Nat.le_of_not_lt (mt (Nat.length_toDigits_le_iff (by decide) several).mpr fewer)

end Decimal

namespace Double

variable {x : Double}

theorem numerator_pos (nonzero : 0 < x.significand) : 0 < x.numerator :=
  Nat.mul_pos nonzero (Nat.pow_pos (by decide))

theorem significand_pos (notZero : x.isZero = false) : 0 < x.significand := by
  have fields : x.exponentField ≠ 0 ∨ x.fraction ≠ 0 := by
    simpa only [isZero, Bool.and_eq_false_iff, beq_eq_false_iff_ne] using notZero
  unfold significand
  simp only [Nat.pow_eq]
  split <;> omega

theorem significand_lt (x : Double) : x.significand < 2 ^ 53 := by
  have small : x.fraction < 2 ^ 52 := Nat.mod_lt _ (by decide)
  unfold significand
  simp only [Nat.pow_eq]
  split <;> omega

theorem scale_le (finite : x.isFinite = true) : x.scale ≤ 971 := by
  have exponent : x.exponentField ≠ 2047 := bne_iff_ne.mp finite
  have range : x.exponentField < 2 ^ 11 := Nat.mod_lt _ (by decide)
  unfold scale
  omega

theorem significand_of_narrowBelow (narrow : x.narrowBelow = true) : x.significand = 2 ^ 52 := by
  have fields : x.fraction = 0 ∧ 1 < x.exponentField := by
    simpa only [narrowBelow, Bool.and_eq_true, beq_iff_eq, decide_eq_true_eq] using narrow
  have normal : x.exponentField ≠ 0 := by omega
  rw [significand, if_neg normal, fields.1]
  rfl

/-- The leading digit of a number tells between which powers of ten it lies. -/
theorem leadingExponent_spec (nonzero : 0 < x.significand) :
    (10 : ℚ) ^ x.leadingExponent ≤ x.magnitude ∧ x.magnitude < 10 ^ (x.leadingExponent + 1) := by
  have num := numerator_pos nonzero
  have den := x.denominator_pos
  have num' : (0 : ℚ) < x.numerator := Nat.cast_pos.mpr num
  have den' : (0 : ℚ) < x.denominator := Nat.cast_pos.mpr den
  unfold leadingExponent magnitude
  split
  · next large =>
      have positive : 0 < x.numerator / x.denominator := Nat.div_pos large den
      have counted := Decimal.digitCount_pos positive
      have low := Decimal.pow_digitCount_le positive
      have high := Decimal.lt_pow_digitCount positive
      generalize Decimal.digitCount (x.numerator / x.denominator) = count at counted low high
      obtain ⟨places, rfl⟩ := Nat.exists_eq_add_of_lt counted
      simp only [Nat.zero_add, Nat.add_sub_cancel, Nat.cast_add, Nat.cast_one, add_sub_cancel_right]
        at low high ⊢
      constructor
      · rw [le_div_iff₀ den']
        exact_mod_cast (Nat.le_div_iff_mul_le den).mp low
      · rw [div_lt_iff₀ den']
        exact_mod_cast (Nat.div_lt_iff_lt_mul den).mp high
  · next small =>
      have positive : 0 < (x.denominator - 1) / x.numerator := Nat.div_pos (by omega) num
      have counted := Decimal.digitCount_pos positive
      have low := Decimal.pow_digitCount_le positive
      have high := Decimal.lt_pow_digitCount positive
      generalize Decimal.digitCount ((x.denominator - 1) / x.numerator) = count at counted low high
      obtain ⟨places, rfl⟩ := Nat.exists_eq_add_of_lt counted
      rw [Nat.zero_add] at low high ⊢
      rw [Nat.add_sub_cancel, Nat.le_div_iff_mul_le num] at low
      rw [Nat.div_lt_iff_lt_mul num] at high
      have below : x.denominator ≤ 10 ^ (places + 1) * x.numerator := by omega
      have above : 10 ^ places * x.numerator < x.denominator := by omega
      constructor
      · rw [zpow_neg, inv_le_iff_one_le_mul₀ (by positivity), div_mul_eq_mul_div, one_le_div den']
        rw [Nat.mul_comm] at below
        exact_mod_cast below
      · have exponent : -((places + 1 : Nat) : ℤ) + 1 = -(places : ℤ) := by omega
        rw [exponent, zpow_neg, div_lt_iff₀ den', lt_inv_mul_iff₀ (by positivity)]
        exact_mod_cast above

/-! ## The fractions that round to a number -/

section Comparison

variable (x : Double) (d : Decimal) (quarters : Nat)

theorem quarters_eq :
    (quarters / 4 * 2 ^ x.scale : ℚ) =
      (quarters * Nat.pow 2 x.scale.toNat : Nat) / (x.denominator * 4 : Nat) := by
  rw [zpow_eq_div two_ne_zero, denominator]
  simp only [Nat.pow_eq, Nat.cast_mul, Nat.cast_pow, Nat.cast_ofNat]
  field_simp

theorem lt_value_iff :
    quarters * Nat.pow 2 x.scale.toNat * d.denominator < d.numerator * (x.denominator * 4) ↔
      (quarters / 4 * 2 ^ x.scale : ℚ) < d.value := by
  have whole : (0 : ℚ) < (x.denominator * 4 : Nat) :=
    Nat.cast_pos.mpr (Nat.mul_pos x.denominator_pos (by decide))
  rw [quarters_eq, Decimal.value, div_lt_div_iff₀ whole (Nat.cast_pos.mpr d.denominator_pos)]
  exact_mod_cast Iff.rfl

theorem value_lt_iff :
    d.numerator * (x.denominator * 4) < quarters * Nat.pow 2 x.scale.toNat * d.denominator ↔
      d.value < (quarters / 4 * 2 ^ x.scale : ℚ) := by
  have whole : (0 : ℚ) < (x.denominator * 4 : Nat) :=
    Nat.cast_pos.mpr (Nat.mul_pos x.denominator_pos (by decide))
  rw [quarters_eq, Decimal.value, div_lt_div_iff₀ (Nat.cast_pos.mpr d.denominator_pos) whole]
  exact_mod_cast Iff.rfl

end Comparison

/-- How far the fractions that round to `x` reach below it, in its units. -/
def reachBelow (x : Double) : ℚ := if x.narrowBelow then 1 / 4 else 1 / 2

/-- A decimal that identifies a number is half a unit above it at most. -/
theorem value_le_of_identifiedBy {d : Decimal} (known : x.identifiedBy d = true) :
    d.value ≤ (x.significand + 1 / 2) * 2 ^ x.scale := by
  simp only [identifiedBy, Bool.and_eq_true, Bool.or_eq_true, beq_iff_eq] at known
  have below : ¬ (4 * x.significand + 2) * Nat.pow 2 x.scale.toNat * d.denominator <
      d.numerator * (x.denominator * 4) := by
    rcases known.2 with less | ⟨-, equal⟩
    · exact Nat.not_lt_of_lt (Nat.compare_eq_lt.mp less)
    · exact Nat.not_lt_of_le (Nat.compare_eq_eq.mp equal).le
  rw [lt_value_iff, not_lt] at below
  refine below.trans_eq ?_
  push_cast
  ring

/-- The decimals between the middles to the neighbours identify a number. -/
theorem identifiedBy_of_between {d : Decimal} (nonzero : 0 < x.significand)
    (low : (x.significand - x.reachBelow) * 2 ^ x.scale < d.value)
    (high : d.value < (x.significand + 1 / 2) * 2 ^ x.scale) : x.identifiedBy d = true := by
  have above : (4 * x.significand - if x.narrowBelow then 1 else 2) * Nat.pow 2 x.scale.toNat *
      d.denominator < d.numerator * (x.denominator * 4) := by
    rw [lt_value_iff]
    refine lt_of_eq_of_lt ?_ low
    unfold reachBelow
    split
    · rw [Nat.cast_sub (by omega)]
      push_cast
      ring
    · rw [Nat.cast_sub (by omega)]
      push_cast
      ring
  have below : d.numerator * (x.denominator * 4) <
      (4 * x.significand + 2) * Nat.pow 2 x.scale.toNat * d.denominator := by
    rw [value_lt_iff]
    refine high.trans_eq ?_
    push_cast
    ring
  simp only [identifiedBy, Bool.and_eq_true, Bool.or_eq_true, beq_iff_eq]
  exact ⟨Or.inl (Nat.compare_eq_gt.mpr above), Or.inl (Nat.compare_eq_lt.mpr below)⟩

/-! ## The grids -/

/-- How many steps of a grid a number holds. -/
def steps (x : Double) (exponent : Int) : Nat :=
  x.numerator * Nat.pow 10 (-exponent).toNat / (x.denominator * Nat.pow 10 exponent.toNat)

theorem steps_spec (x : Double) (exponent : Int) :
    (x.steps exponent : ℚ) ≤ x.magnitude / 10 ^ exponent ∧
      x.magnitude / 10 ^ exponent < x.steps exponent + 1 := by
  have den : 0 < x.denominator * Nat.pow 10 exponent.toNat :=
    Nat.mul_pos x.denominator_pos (Nat.pow_pos (by decide))
  have den' : (0 : ℚ) < (x.denominator * Nat.pow 10 exponent.toNat : Nat) := Nat.cast_pos.mpr den
  have scaled := div_div_zpow (Nat.succ_pos 9) x.numerator x.denominator exponent
  have low := Nat.div_mul_le_self (x.numerator * Nat.pow 10 (-exponent).toNat)
    (x.denominator * Nat.pow 10 exponent.toNat)
  have high := Nat.lt_mul_of_div_lt (Nat.lt_succ_self (x.steps exponent)) den
  refine scaled ▸ ⟨?_, ?_⟩
  · rw [le_div_iff₀ den']
    exact_mod_cast low
  · rw [div_lt_iff₀ den']
    exact_mod_cast high

/-- What is found on a grid identifies the number and is next to it. -/
theorem nearestOnGrid?_eq_some {tie : TieBreak} {exponent : Int} {d : Decimal}
    (found : x.nearestOnGrid? tie exponent = some d) :
    x.identifiedBy d = true ∧
      (d = ⟨x.steps exponent, exponent⟩ ∨ d = ⟨x.steps exponent + 1, exponent⟩) := by
  have chosen : ∀ {d'}, some d' = some d → x.identifiedBy d' = true →
      (d' = ⟨x.steps exponent, exponent⟩ ∨ d' = ⟨x.steps exponent + 1, exponent⟩) →
      x.identifiedBy d = true ∧
        (d = ⟨x.steps exponent, exponent⟩ ∨ d = ⟨x.steps exponent + 1, exponent⟩) := by
    rintro d' ⟨⟩ known place
    exact ⟨known, place⟩
  unfold nearestOnGrid? at found
  simp only at found
  split at found
  · cases found
  · next below above => exact chosen found below (Or.inl rfl)
  · next below above => exact chosen found above (Or.inr rfl)
  · next below above =>
      split at found
      · exact chosen found below (Or.inl rfl)
      · exact chosen found above (Or.inr rfl)
      · split at found
        · exact chosen found above (Or.inr rfl)
        · split at found
          · exact chosen found below (Or.inl rfl)
          · exact chosen found above (Or.inr rfl)

/-- Nothing is found on a grid only if neither neighbour identifies the number. -/
theorem of_nearestOnGrid?_eq_none {tie : TieBreak} {exponent : Int}
    (missing : x.nearestOnGrid? tie exponent = none) :
    x.identifiedBy ⟨x.steps exponent, exponent⟩ = false ∧
      x.identifiedBy ⟨x.steps exponent + 1, exponent⟩ = false := by
  unfold nearestOnGrid? at missing
  simp only at missing
  split at missing
  · next below above => exact ⟨below, above⟩
  · cases missing
  · cases missing
  · split at missing
    · cases missing
    · cases missing
    · split at missing <;> cases missing

/-! ## The decimal that is written -/

/-- What is known of the decimal that is written for a number: it is half a unit above the number
at most. -/
structure Writes (x : Double) (d : Decimal) : Prop where
  positive : 0 < d.digits
  short : d.digits ≤ 10 ^ 17
  fine : -340 ≤ d.exponent
  near : d.value ≤ (x.significand + 1 / 2) * 2 ^ x.scale

theorem Writes.exponent_le {d : Decimal} (writes : x.Writes d) (finite : x.isFinite = true) :
    d.exponent ≤ 308 := by
  have one : (1 : ℚ) ≤ d.digits := by exact_mod_cast writes.positive
  have small : (x.significand : ℚ) + 1 / 2 ≤ 2 ^ 53 - 1 / 2 := by
    have whole : (x.significand : ℚ) + 1 ≤ 2 ^ 53 := by exact_mod_cast x.significand_lt
    linarith
  have unit : (2 : ℚ) ^ x.scale ≤ 2 ^ (971 : ℤ) := zpow_le_zpow_right₀ one_le_two (scale_le finite)
  have power : (10 : ℚ) ^ d.exponent < 10 ^ (309 : ℤ) :=
    calc (10 : ℚ) ^ d.exponent
      _ ≤ d.digits * 10 ^ d.exponent :=
          le_mul_of_one_le_left (zpow_nonneg (by norm_num) _) one
      _ = d.value := d.value_eq.symm
      _ ≤ (x.significand + 1 / 2) * 2 ^ x.scale := writes.near
      _ ≤ (2 ^ 53 - 1 / 2) * 2 ^ (971 : ℤ) :=
          mul_le_mul small unit (zpow_nonneg zero_le_two _) (by norm_num)
      _ = overflow := overflow_eq.symm
      _ < 10 ^ (309 : ℤ) := by exact_mod_cast overflow_lt
  have exponents := (zpow_lt_zpow_iff_right₀ (by norm_num)).mp power
  omega

section Nonzero

variable (nonzero : 0 < x.significand)
include nonzero

/-- The steps of the grid with 17 digits are smaller than the interval is wide. -/
theorem step_lt :
    (10 : ℚ) ^ (x.leadingExponent - 16) < (x.reachBelow + 1 / 2) * 2 ^ x.scale := by
  have unit : (0 : ℚ) < 2 ^ x.scale := zpow_pos two_pos _
  have low := (leadingExponent_spec nonzero).1
  have step : (10 : ℚ) ^ x.leadingExponent = 10 ^ (x.leadingExponent - 16) * 10 ^ 16 := by
    rw [← zpow_natCast, ← zpow_add₀ (by norm_num)]
    exact congrArg _ (Int.sub_add_cancel _ _).symm
  rw [step, magnitude_eq] at low
  have wide : (x.significand : ℚ) < (x.reachBelow + 1 / 2) * 10 ^ 16 := by
    unfold reachBelow
    split
    · next narrow =>
        rw [significand_of_narrowBelow narrow]
        norm_num
    · have small : (x.significand : ℚ) < 2 ^ 53 := by exact_mod_cast x.significand_lt
      linarith
  have wide' := mul_lt_mul_of_pos_right wide unit
  linarith

/-- A decimal with 17 digits next to a number identifies it. -/
theorem nearestOnGrid?_ne_none (tie : TieBreak) :
    x.nearestOnGrid? tie (x.leadingExponent - 16) ≠ none := by
  intro missing
  obtain ⟨below, above⟩ := of_nearestOnGrid?_eq_none missing
  obtain ⟨low, high⟩ := x.steps_spec (x.leadingExponent - 16)
  have unit : (0 : ℚ) < 2 ^ x.scale := zpow_pos two_pos _
  have step : (0 : ℚ) < 10 ^ (x.leadingExponent - 16) := zpow_pos (by norm_num) _
  have fine := step_lt nonzero
  rw [magnitude_eq, le_div_iff₀ step] at low
  rw [magnitude_eq, div_lt_iff₀ step] at high
  generalize x.steps (x.leadingExponent - 16) = count at below above low high
  have reach : 0 < x.reachBelow := by
    unfold reachBelow
    split <;> norm_num
  -- If neither neighbour identified the number, the interval would fit between them.
  have outsideBelow : (count : ℚ) * 10 ^ (x.leadingExponent - 16) ≤
      (x.significand - x.reachBelow) * 2 ^ x.scale := by
    refine le_of_not_gt fun inside => Bool.false_ne_true (below ▸ ?_)
    refine identifiedBy_of_between nonzero ?_ ?_
    · rw [Decimal.value_eq]
      exact inside
    · rw [Decimal.value_eq]
      linarith
  have outsideAbove : (x.significand + 1 / 2 : ℚ) * 2 ^ x.scale ≤
      (count + 1) * 10 ^ (x.leadingExponent - 16) := by
    refine le_of_not_gt fun inside => Bool.false_ne_true (above ▸ ?_)
    have gap := mul_pos reach unit
    refine identifiedBy_of_between nonzero ?_ ?_
    · rw [Decimal.value_eq]
      push_cast
      linarith
    · rw [Decimal.value_eq]
      push_cast
      exact inside
  linarith

/-- On a grid with at most 17 digits, the number of steps has at most 17 digits. -/
theorem steps_bounds {places : Nat} (few : places < 17) :
    0 < x.steps (x.leadingExponent - places) ∧ x.steps (x.leadingExponent - places) < 10 ^ 17 := by
  have ten : (10 : ℚ) ≠ 0 := by norm_num
  have step : (0 : ℚ) < 10 ^ (x.leadingExponent - places) := zpow_pos (by norm_num) _
  obtain ⟨low, high⟩ := leadingExponent_spec nonzero
  obtain ⟨atMost, lessThan⟩ := x.steps_spec (x.leadingExponent - places)
  have least : (10 : ℚ) ^ places ≤ x.magnitude / 10 ^ (x.leadingExponent - places) := by
    rw [le_div_iff₀ step, ← zpow_natCast, ← zpow_add₀ ten, add_sub_cancel]
    exact low
  have most : x.magnitude / 10 ^ (x.leadingExponent - places) < 10 ^ (places + 1) := by
    rw [div_lt_iff₀ step, ← zpow_natCast, ← zpow_add₀ ten]
    refine high.trans_eq (congrArg _ ?_)
    push_cast
    omega
  have one : (1 : ℚ) ≤ 10 ^ places := one_le_pow₀ (by norm_num)
  constructor
  · have whole : ((1 : Nat) : ℚ) < (x.steps (x.leadingExponent - places) + 1 : Nat) := by
      push_cast
      linarith
    exact Nat.lt_of_succ_lt_succ (Nat.cast_lt.mp whole)
  · have small : (x.steps (x.leadingExponent - places) : ℚ) < (10 ^ (places + 1) : Nat) := by
      push_cast
      exact atMost.trans_lt most
    exact (Nat.cast_lt.mp small).trans_le (Nat.pow_le_pow_right (by decide) few)

/-- No number is below the least unit. -/
theorem leadingExponent_ge : -324 ≤ x.leadingExponent := by
  have high := (leadingExponent_spec nonzero).2
  have least : (2 : ℚ) ^ (-1074 : ℤ) ≤ x.magnitude := by
    have unit : (-1074 : ℤ) ≤ x.scale := by
      unfold scale
      omega
    have one : (1 : ℚ) ≤ x.significand := by exact_mod_cast nonzero
    rw [magnitude_eq]
    exact (zpow_le_zpow_right₀ one_le_two unit).trans
      (le_mul_of_one_le_left (zpow_nonneg zero_le_two _) one)
  have between : (10 : ℚ) ^ (-324 : ℤ) < 10 ^ (x.leadingExponent + 1) := by
    refine lt_trans ?_ (least.trans_lt high)
    have powers : 2 ^ 1074 < 10 ^ 324 := by decide +kernel
    rw [zpow_neg, zpow_neg, inv_lt_inv₀ (by positivity) (by positivity)]
    exact_mod_cast powers
  have exponents := (zpow_lt_zpow_iff_right₀ (by norm_num)).mp between
  omega

theorem writes_shortest (tie : TieBreak) : x.Writes (x.shortest tie) := by
  unfold shortest
  simp only
  cases found : (List.range 17).findSome? fun digits : Nat =>
      x.nearestOnGrid? tie (x.leadingExponent - digits) with
  | none =>
      rw [List.findSome?_eq_none_iff] at found
      exact absurd (found 16 (by decide)) (nearestOnGrid?_ne_none nonzero tie)
  | some d =>
      obtain ⟨places, few, found⟩ := List.exists_of_findSome?_eq_some found
      obtain ⟨known, place⟩ := nearestOnGrid?_eq_some found
      have few := List.mem_range.mp few
      have bounds := steps_bounds nonzero few
      have least := leadingExponent_ge nonzero
      have digits : 0 < d.digits ∧ d.digits ≤ 10 ^ 17 ∧ -340 ≤ d.exponent := by
        rcases place with rfl | rfl
        · exact ⟨bounds.1, bounds.2.le, by simp only; omega⟩
        · exact ⟨Nat.succ_pos _, bounds.2, by simp only; omega⟩
      exact {
        positive := d.digits_stripZeros_pos 17 digits.1
        short := (d.digits_stripZeros_le 17).trans digits.2.1
        fine := digits.2.2.trans (d.exponent_le_stripZeros 17)
        near := (d.value_stripZeros 17).trans_le (value_le_of_identifiedBy known) }

end Nonzero

end Double

end EntryStore
