import EntryStore.Double.Basic
import Mathlib.Algebra.Order.Field.Power
import Mathlib.Data.Rat.Cast.Order
import Mathlib.Tactic.FieldSimp
import Mathlib.Tactic.Linarith
import Mathlib.Tactic.NormNum
import Mathlib.Tactic.Positivity
import Mathlib.Tactic.Ring

/-!
# Rounding to doubles

The magnitude of a double as a rational number, and what rounding a positive fraction does to it:
the result is finite below `overflow`, and differs by half a unit in the last place at most, which
for normal numbers is a 2⁻⁵³ of the fraction.  All of it follows from three facts: the exponent of a
fraction encloses it between powers of two, a rounded quotient is at most one half away, and a
pattern that is put together of a unit and a significand stands for their product.
-/

namespace EntryStore.Double

/-- The magnitude of a finite number. -/
def magnitude (x : Double) : ℚ := x.numerator / x.denominator

/-- What lies half way between the greatest double and the next power of two. -/
def overflow : ℚ := 2 ^ 1024 - 2 ^ 970

theorem overflow_eq : overflow = (2 ^ 53 - 1 / 2) * 2 ^ (971 : ℤ) := by
  have whole : (2 : ℚ) ^ 1024 = 2 ^ 53 * 2 ^ 971 := pow_add 2 53 971
  have next : (2 : ℚ) ^ 971 = 2 ^ 970 * 2 := pow_succ 2 970
  rw [overflow, whole, zpow_ofNat, next]
  generalize (2 : ℚ) ^ 970 = half
  ring

theorem overflow_lt : overflow < 10 ^ 309 := by
  have powers : 2 ^ 1024 < 10 ^ 309 := by decide +kernel
  refine (sub_lt_self _ (by positivity)).trans ?_
  exact_mod_cast powers

/-- A power is a quotient of powers with natural exponents. -/
theorem zpow_eq_div {base : ℚ} (nonzero : base ≠ 0) (n : ℤ) :
    base ^ n = base ^ n.toNat / base ^ (-n).toNat := by
  conv_lhs => rw [← Int.toNat_sub_toNat_neg n]
  rw [zpow_sub₀ nonzero, zpow_natCast, zpow_natCast]

/-- A fraction in units of a power is a fraction again. -/
theorem div_div_zpow {base : Nat} (positive : 0 < base) (num den : Nat) (e : ℤ) :
    (num / den / (base : ℚ) ^ e : ℚ) =
      (num * Nat.pow base (-e).toNat : Nat) / (den * Nat.pow base e.toNat : Nat) := by
  rw [zpow_eq_div (Nat.cast_ne_zero.mpr positive.ne') e]
  simp only [Nat.pow_eq, Nat.cast_mul, Nat.cast_pow]
  field_simp

theorem magnitude_eq (x : Double) : x.magnitude = x.significand * 2 ^ x.scale := by
  have power := zpow_eq_div (two_ne_zero' ℚ) x.scale
  rw [magnitude, numerator, denominator, power]
  simp only [Nat.pow_eq, Nat.cast_mul, Nat.cast_pow, Nat.cast_ofNat, mul_div_assoc]

theorem denominator_pos (x : Double) : 0 < x.denominator := Nat.pow_pos (by decide)

/-! ## The exponent of a fraction -/

/-- A fraction lies between two powers of two. -/
theorem binaryExponent_spec {num den : Nat} (positive : 0 < num) (proper : 0 < den) :
    (2 : ℚ) ^ binaryExponent num den ≤ num / den ∧
      (num / den : ℚ) < 2 ^ (binaryExponent num den + 1) := by
  have two : (2 : ℚ) ≠ 0 := two_ne_zero
  have den' : (0 : ℚ) < den := Nat.cast_pos.mpr proper
  have numLow : (2 : ℚ) ^ (num.log2 : ℤ) ≤ num := by
    exact_mod_cast Nat.log2_self_le positive.ne'
  have numHigh : (num : ℚ) < 2 ^ ((num.log2 : ℤ) + 1) := by
    exact_mod_cast Nat.lt_log2_self
  have denLow : (2 : ℚ) ^ (den.log2 : ℤ) ≤ den := by
    exact_mod_cast Nat.log2_self_le proper.ne'
  have denHigh : (den : ℚ) < 2 ^ ((den.log2 : ℤ) + 1) := by
    exact_mod_cast Nat.lt_log2_self
  -- The difference of the logarithms is at most one too great, which is what is tested.
  have guessLow : (2 : ℚ) ^ ((num.log2 : ℤ) - den.log2 - 1) ≤ num / den := by
    rw [sub_sub, zpow_sub₀ two, div_le_div_iff₀ (by positivity) den']
    exact mul_le_mul numLow denHigh.le den'.le (by positivity)
  have guessHigh : (num / den : ℚ) < 2 ^ ((num.log2 : ℤ) - den.log2 + 1) := by
    rw [sub_add_eq_add_sub, zpow_sub₀ two, div_lt_div_iff₀ den' (by positivity)]
    exact mul_lt_mul numHigh denLow (by positivity) (by positivity)
  have test : num * Nat.pow 2 (-((num.log2 : ℤ) - den.log2)).toNat <
      den * Nat.pow 2 ((num.log2 : ℤ) - den.log2).toNat ↔
      (num / den : ℚ) < 2 ^ ((num.log2 : ℤ) - den.log2) := by
    rw [zpow_eq_div two, div_lt_div_iff₀ den' (by positivity), mul_comm _ (den : ℚ)]
    simp only [Nat.pow_eq]
    exact_mod_cast Iff.rfl
  unfold binaryExponent
  simp only
  split
  · next less =>
      rw [sub_add_cancel]
      exact ⟨guessLow, test.mp less⟩
  · next notLess =>
      exact ⟨not_lt.mp (mt test.mpr notLess), guessHigh⟩

/-! ## Rounded quotients -/

/-- A rounded quotient is at most one half away from the quotient. -/
theorem abs_roundQuotient_sub_le (num : Nat) {den : Nat} (proper : 0 < den) :
    |(roundQuotient num den : ℚ) - num / den| ≤ 1 / 2 := by
  have den' : (0 : ℚ) < den := Nat.cast_pos.mpr proper
  have small : ((num % den : Nat) : ℚ) < den := Nat.cast_lt.mpr (Nat.mod_lt num proper)
  have quotient : (num / den : ℚ) = (num / den : Nat) + (num % den : Nat) / den := by
    have whole : (num : ℚ) = den * (num / den : Nat) + (num % den : Nat) := by
      exact_mod_cast (Nat.div_add_mod num den).symm
    rw [whole]
    field_simp
  have nonneg : (0 : ℚ) ≤ (num % den : Nat) / den := by positivity
  have below : ((num % den : Nat) / den : ℚ) < 1 := (div_lt_one den').mpr small
  have half : ((num % den : Nat) / den : ℚ) = 1 / 2 * (2 * (num % den : Nat) / den) := by ring
  rw [quotient, abs_le]
  unfold roundQuotient
  simp only [Bool.or_eq_true, Bool.and_eq_true, decide_eq_true_eq, beq_iff_eq]
  split
  · next up =>
      have least : den ≤ 2 * (num % den) := by omega
      have least' : (1 : ℚ) ≤ 2 * (num % den : Nat) / den := by
        rw [one_le_div den']
        exact_mod_cast least
      push_cast
      constructor <;> linarith
  · next down =>
      have greatest : 2 * (num % den) ≤ den := by omega
      have greatest' : (2 * (num % den : Nat) / den : ℚ) ≤ 1 := by
        rw [div_le_one den']
        exact_mod_cast greatest
      constructor <;> linarith

/-- The exponent of the unit to which a fraction is rounded. -/
def unitOf (num den : Nat) : Int := max (binaryExponent num den - 52) (-1074)

/-- The multiple of its unit to which a fraction is rounded. -/
def multipleOf (num den : Nat) : Nat :=
  roundQuotient (num * Nat.pow 2 (-unitOf num den).toNat) (den * Nat.pow 2 (unitOf num den).toNat)

theorem roundPattern_eq {num den : Nat} (positive : 0 < num) :
    roundPattern num den =
      min ((unitOf num den + 1074).toNat * Nat.pow 2 52 + multipleOf num den) infinityPattern := by
  rw [roundPattern, if_neg positive.ne']
  rfl

/-- The multiple of its unit to which a fraction is rounded is half a unit away at most. -/
theorem abs_multipleOf_sub_le (num : Nat) {den : Nat} (proper : 0 < den) :
    |(multipleOf num den : ℚ) - num / den / 2 ^ unitOf num den| ≤ 1 / 2 := by
  have proper' : 0 < den * Nat.pow 2 (unitOf num den).toNat :=
    Nat.mul_pos proper (Nat.pow_pos (by decide))
  have near := abs_roundQuotient_sub_le (num * Nat.pow 2 (-unitOf num den).toNat) proper'
  rw [← div_div_zpow two_pos] at near
  exact near

section Fraction

variable {num den : Nat} (positive : 0 < num) (proper : 0 < den)
include positive proper

/-- A fraction has at most 53 bits in its unit. -/
theorem fraction_lt : (num / den : ℚ) < 2 ^ 53 * 2 ^ unitOf num den := by
  have high := (binaryExponent_spec positive proper).2
  have reach : binaryExponent num den + 1 ≤ 53 + unitOf num den := by
    unfold unitOf
    omega
  calc (num / den : ℚ) < 2 ^ (binaryExponent num den + 1) := high
    _ ≤ 2 ^ (53 + unitOf num den) := zpow_le_zpow_right₀ one_le_two reach
    _ = 2 ^ 53 * 2 ^ unitOf num den := by
        rw [zpow_add₀ two_ne_zero]
        norm_cast

/-- Above the least unit, a fraction has at least 53 bits in its unit. -/
theorem le_fraction (normal : -1074 < unitOf num den) :
    2 ^ 52 * 2 ^ unitOf num den ≤ (num / den : ℚ) := by
  have low := (binaryExponent_spec positive proper).1
  have reach : 52 + unitOf num den = binaryExponent num den := by
    unfold unitOf at normal ⊢
    omega
  rw [← reach, zpow_add₀ two_ne_zero] at low
  exact_mod_cast low

theorem multipleOf_le : multipleOf num den ≤ 2 ^ 53 := by
  have near := (abs_le.mp (abs_multipleOf_sub_le num proper)).2
  have small := (div_lt_iff₀ (zpow_pos two_pos (unitOf num den))).mpr (fraction_lt positive proper)
  have less : (multipleOf num den : ℚ) < (2 ^ 53 + 1 : Nat) := by
    push_cast
    linarith
  exact Nat.lt_succ_iff.mp (Nat.cast_lt.mp less)

theorem le_multipleOf (normal : -1074 < unitOf num den) : 2 ^ 52 ≤ multipleOf num den := by
  have near := (abs_le.mp (abs_multipleOf_sub_le num proper)).1
  have large := (le_div_iff₀ (zpow_pos two_pos (unitOf num den))).mpr
    (le_fraction positive proper normal)
  have less : ((2 ^ 52 : Nat) : ℚ) < (multipleOf num den + 1 : Nat) := by
    push_cast
    linarith
  exact Nat.lt_succ_iff.mp (Nat.cast_lt.mp less)

end Fraction

/-! ## Patterns -/

theorem toNat_bits_ofPattern {pattern : Nat} (fits : pattern ≤ infinityPattern) :
    (ofPattern false pattern).bits.toNat = pattern := by
  have small : pattern < 2 ^ 64 := Nat.lt_of_le_of_lt fits (by decide)
  exact Nat.mod_eq_of_lt small

/-- Below the pattern of infinity, the exponent field and the fraction are what the pattern is put
together of. -/
theorem fields_ofPattern {field fraction : Nat} (finite : field < 2047)
    (fits : fraction < 2 ^ 52) :
    (ofPattern false (field * 2 ^ 52 + fraction)).exponentField = field ∧
      (ofPattern false (field * 2 ^ 52 + fraction)).fraction = fraction := by
  have low : field * 2 ^ 52 + fraction ≤ infinityPattern := by
    unfold infinityPattern
    simp only [Nat.pow_eq]
    omega
  unfold exponentField Double.fraction
  rw [toNat_bits_ofPattern low]
  simp only [Nat.pow_eq]
  omega

theorem magnitude_of_subnormal {fraction : Nat} (fits : fraction < 2 ^ 52) :
    (ofPattern false fraction).magnitude = fraction * 2 ^ (-1074 : ℤ) := by
  obtain ⟨exponent, bits⟩ := @fields_ofPattern 0 fraction (by decide) fits
  rw [Nat.zero_mul, Nat.zero_add] at exponent bits
  rw [magnitude_eq, significand, scale, if_pos exponent, bits, exponent]
  rfl

theorem magnitude_of_normal {field fraction : Nat} (positive : 0 < field) (finite : field < 2047)
    (fits : fraction < 2 ^ 52) :
    (ofPattern false (field * 2 ^ 52 + fraction)).magnitude =
      (fraction + 2 ^ 52 : Nat) * 2 ^ ((field : ℤ) - 1075) := by
  obtain ⟨exponent, bits⟩ := fields_ofPattern finite fits
  rw [magnitude_eq, significand, scale, exponent, bits, if_neg positive.ne', max_eq_left positive]
  rfl

/-- A pattern that is put together of a unit and a multiple of it, of which the normal ones have 53
bits, stands for their product.  The multiple `2 ^ 53` carries into the next unit. -/
theorem magnitude_ofPattern {unit multiple : Nat} (most : multiple ≤ 2 ^ 53)
    (least : unit = 0 ∨ 2 ^ 52 ≤ multiple)
    (finite : unit * 2 ^ 52 + multiple < infinityPattern) :
    (ofPattern false (unit * 2 ^ 52 + multiple)).magnitude =
      multiple * 2 ^ ((unit : ℤ) - 1074) := by
  have bound : infinityPattern = 2047 * 2 ^ 52 := rfl
  rcases Nat.lt_or_ge multiple (2 ^ 52) with small | large
  · obtain rfl := least.resolve_right (Nat.not_le.mpr small)
    rw [Nat.zero_mul, Nat.zero_add, magnitude_of_subnormal small]
    rfl
  · obtain ⟨fraction, rfl⟩ := Nat.exists_eq_add_of_le large
    -- The hidden bit adds one to the exponent field, and a carry adds another.
    rcases Nat.lt_or_ge fraction (2 ^ 52) with inside | carry
    · have pattern : unit * 2 ^ 52 + (2 ^ 52 + fraction) = (unit + 1) * 2 ^ 52 + fraction := by ring
      have scale : ((unit + 1 : Nat) : ℤ) - 1075 = unit - 1074 := by omega
      rw [pattern, magnitude_of_normal (Nat.succ_pos unit) (by omega) inside, scale, Nat.add_comm]
    · obtain rfl : fraction = 2 ^ 52 := by omega
      have pattern : unit * 2 ^ 52 + (2 ^ 52 + 2 ^ 52) = (unit + 2) * 2 ^ 52 + 0 := by ring
      have scale : ((unit + 2 : Nat) : ℤ) - 1075 = unit - 1074 + 1 := by omega
      rw [pattern, magnitude_of_normal (Nat.succ_pos _) (by omega) (by decide), scale,
        zpow_add_one₀ two_ne_zero]
      push_cast
      ring

theorem isFinite_ofPattern {pattern : Nat} (below : pattern < infinityPattern) :
    (ofPattern false pattern).isFinite = true := by
  have exponent : (ofPattern false pattern).exponentField ≠ 2047 := by
    unfold exponentField
    rw [toNat_bits_ofPattern (Nat.le_of_lt below)]
    unfold infinityPattern at below
    simp only [Nat.pow_eq] at below ⊢
    omega
  exact bne_iff_ne.mpr exponent

/-! ## Rounded fractions -/

section Fraction

variable {num den : Nat}

/-- A fraction below `overflow` is rounded to a finite number. -/
theorem roundPattern_lt (proper : 0 < den) (below : (num / den : ℚ) < overflow) :
    roundPattern num den < infinityPattern := by
  rcases Nat.eq_zero_or_pos num with rfl | positive
  · rw [roundPattern, if_pos rfl]
    decide
  have low := (binaryExponent_spec positive proper).1
  have small : binaryExponent num den < 1024 := by
    have less : (2 : ℚ) ^ binaryExponent num den < 2 ^ (1024 : ℤ) := by
      refine low.trans_lt (below.trans_le (sub_le_self _ ?_))
      positivity
    exact (zpow_lt_zpow_iff_right₀ one_lt_two).mp less
  have most := multipleOf_le positive proper
  have bound : infinityPattern = 2047 * 2 ^ 52 := rfl
  rw [roundPattern_eq positive, bound]
  refine lt_of_le_of_lt (Nat.min_le_left _ _) ?_
  simp only [Nat.pow_eq]
  -- In the last unit alone the multiple could reach the pattern of infinity.
  rcases Int.lt_or_le (unitOf num den) 971 with lower | last
  · omega
  · have unit : unitOf num den = 971 := by
      unfold unitOf at last ⊢
      omega
    have near := (abs_le.mp (abs_multipleOf_sub_le num proper)).2
    have less : (multipleOf num den : ℚ) < (2 ^ 53 : Nat) := by
      have scaled : (num / den / 2 ^ unitOf num den : ℚ) < 2 ^ 53 - 1 / 2 := by
        rw [div_lt_iff₀ (zpow_pos two_pos _), unit]
        exact below.trans_eq overflow_eq
      push_cast
      linarith
    have less' := Nat.cast_lt.mp less
    omega

/-- A fraction below `overflow` is rounded by half a unit at most. -/
theorem abs_magnitude_ofFraction_sub_le (positive : 0 < num) (proper : 0 < den)
    (below : (num / den : ℚ) < overflow) :
    |(ofFraction false num den).magnitude - num / den| ≤ 2 ^ unitOf num den / 2 := by
  have finite := roundPattern_lt proper below
  rw [roundPattern_eq positive, min_lt_iff] at finite
  have finite' := finite.resolve_right (lt_irrefl _)
  have least : (unitOf num den + 1074).toNat = 0 ∨ 2 ^ 52 ≤ multipleOf num den := by
    rcases Int.lt_or_le (-1074) (unitOf num den) with normal | subnormal
    · exact Or.inr (le_multipleOf positive proper normal)
    · exact Or.inl (by omega)
  have unit : ((unitOf num den + 1074).toNat : ℤ) - 1074 = unitOf num den := by
    unfold unitOf
    omega
  have product := magnitude_ofPattern (multipleOf_le positive proper) least finite'
  rw [unit] at product
  rw [ofFraction, roundPattern_eq positive, min_eq_left finite'.le]
  refine (congrArg (fun magnitude : ℚ => |magnitude - num / den|) product).trans_le ?_
  have power : (0 : ℚ) < 2 ^ unitOf num den := zpow_pos two_pos _
  have factor : (multipleOf num den * 2 ^ unitOf num den - num / den : ℚ) =
      (multipleOf num den - num / den / 2 ^ unitOf num den) * 2 ^ unitOf num den := by
    field_simp
  have half : (2 ^ unitOf num den / 2 : ℚ) = 1 / 2 * 2 ^ unitOf num den := by ring
  rw [factor, abs_mul, abs_of_pos power, half]
  exact mul_le_mul_of_nonneg_right (abs_multipleOf_sub_le num proper) power.le

/-- A fraction that is not below one grows by a `2 ^ 53`th at most when it is rounded. -/
theorem magnitude_ofFraction_le (proper : 0 < den) (large : (1 : ℚ) ≤ num / den)
    (below : (num / den : ℚ) < overflow) :
    (ofFraction false num den).magnitude ≤ num / den * (1 + 1 / 2 ^ 53) := by
  have den' : (0 : ℚ) < den := Nat.cast_pos.mpr proper
  have positive : 0 < num := by
    rw [one_le_div den'] at large
    exact Nat.cast_pos.mp (den'.trans_le large)
  have normal : -1074 < unitOf num den := by
    have high : (2 : ℚ) ^ (0 : ℤ) < 2 ^ (binaryExponent num den + 1) :=
      large.trans_lt (binaryExponent_spec positive proper).2
    have exponent := (zpow_lt_zpow_iff_right₀ one_lt_two).mp high
    unfold unitOf
    omega
  have near := (abs_le.mp (abs_magnitude_ofFraction_sub_le positive proper below)).2
  have unit := le_fraction positive proper normal
  linarith

end Fraction

theorem magnitude_nonneg (x : Double) : 0 ≤ x.magnitude :=
  div_nonneg (Nat.cast_nonneg _) (Nat.cast_nonneg _)

/-- A natural number grows by a `2 ^ 53`th at most when it is rounded. -/
theorem magnitude_ofNat_le {n : Nat} (positive : 0 < n) (below : (n : ℚ) < overflow) :
    (ofNat n).magnitude ≤ n * (1 + 1 / 2 ^ 53) := by
  have whole : ((n : ℚ) / (1 : Nat)) = n := by rw [Nat.cast_one, div_one]
  have large : (1 : ℚ) ≤ n / (1 : Nat) := by
    rw [whole]
    exact_mod_cast positive
  have grown := magnitude_ofFraction_le Nat.one_pos large (whole.trans_lt below)
  rwa [whole] at grown

/-- Two numbers whose product is two units below the end of the range may be rounded before they
are multiplied. -/
theorem magnitude_mul_lt {n m : Nat} (left : 0 < n) (right : 0 < m)
    (small : (n * m : ℚ) ≤ (2 ^ 53 - 5 / 2) * 2 ^ (971 : ℤ)) :
    (ofNat n).magnitude * (ofNat m).magnitude < overflow := by
  have unit : (0 : ℚ) < 2 ^ (971 : ℤ) := zpow_pos two_pos _
  have left' : (1 : ℚ) ≤ n := by exact_mod_cast left
  have right' : (1 : ℚ) ≤ m := by exact_mod_cast right
  have below : (n * m : ℚ) < overflow := by
    rw [overflow_eq]
    exact small.trans_lt (mul_lt_mul_of_pos_right (by norm_num) unit)
  have first := magnitude_ofNat_le left
    ((le_mul_of_one_le_right (Nat.cast_nonneg n) right').trans_lt below)
  have second := magnitude_ofNat_le right
    ((le_mul_of_one_le_left (Nat.cast_nonneg m) left').trans_lt below)
  calc (ofNat n).magnitude * (ofNat m).magnitude
    _ ≤ n * (1 + 1 / 2 ^ 53) * (m * (1 + 1 / 2 ^ 53)) :=
        mul_le_mul first second (magnitude_nonneg _) (by positivity)
    _ = n * m * (1 + 1 / 2 ^ 53) ^ 2 := by ring
    _ ≤ (2 ^ 53 - 5 / 2) * 2 ^ (971 : ℤ) * (1 + 1 / 2 ^ 53) ^ 2 :=
        mul_le_mul_of_nonneg_right small (sq_nonneg _)
    _ = (2 ^ 53 - 5 / 2) * (1 + 1 / 2 ^ 53) ^ 2 * 2 ^ (971 : ℤ) := by ring
    _ < (2 ^ 53 - 1 / 2) * 2 ^ (971 : ℤ) := mul_lt_mul_of_pos_right (by norm_num) unit
    _ = overflow := overflow_eq.symm

theorem isInfinite_of_isFinite {x : Double} (finite : x.isFinite = true) :
    x.isInfinite = false := by
  have exponent : x.exponentField ≠ 2047 := bne_iff_ne.mp finite
  rw [isInfinite, beq_false_of_ne exponent, Bool.false_and]

/-- A product below `overflow` is finite. -/
theorem isInfinite_mulMagnitude {x y : Double} (below : x.magnitude * y.magnitude < overflow) :
    (x.mulMagnitude y).isInfinite = false := by
  have proper : 0 < x.denominator * y.denominator := Nat.mul_pos x.denominator_pos y.denominator_pos
  refine isInfinite_of_isFinite (isFinite_ofPattern (roundPattern_lt proper ?_))
  rw [magnitude, magnitude, div_mul_div_comm] at below
  exact_mod_cast below

end EntryStore.Double
