import EntryStore.Json.Number
import EntryStore.Proofs.Double.Shortest

/-!
# Decimals that make a number

A decimal with a negative exponent always makes a number.  Any other is the product of its digits
and a power of ten, both of them rounded, which is in range as long as the decimal stays two units
below the end of the range.  What is written for a double does so, unless it is one of the greatest
two of either sign.
-/

namespace EntryStore.Json

open Double (overflow overflow_eq)

variable {negative : Bool} {significand : Nat} {exponent : Int} {x : Double}

theorem isSome_scaled?_of_neg (down : exponent < 0) :
    (scaled? negative significand exponent).isSome = true := by
  unfold scaled?
  simp only
  rw [if_neg (Int.not_le.mpr down)]
  split
  · rfl
  · split <;> rfl

/-- Two roundings do not lead out of the range from two units below its end. -/
theorem isSome_scaled?_of_le (positive : 0 < significand)
    (small : (significand * 10 ^ exponent : ℚ) ≤ (2 ^ 53 - 5 / 2) * 2 ^ (971 : ℤ)) :
    (scaled? negative significand exponent).isSome = true := by
  rcases Int.lt_or_le exponent 0 with down | up
  · exact isSome_scaled?_of_neg down
  obtain ⟨power, rfl⟩ := Int.eq_ofNat_of_zero_le up
  rw [zpow_natCast] at small
  have whole : ((10 ^ power : Nat) : ℚ) = 10 ^ power := by push_cast; rfl
  have product : (Double.ofNat significand).magnitude * (powerOfTen power).magnitude < overflow :=
    Double.magnitude_mul_lt positive (Nat.pow_pos (by decide)) (whole.symm ▸ small)
  have limited : (power : ℤ) ≤ 308 := by
    have one : (1 : ℚ) ≤ significand := by exact_mod_cast positive
    have range : ((2 ^ 53 - 5 / 2) * 2 ^ (971 : ℤ) : ℚ) ≤ overflow := by
      rw [overflow_eq]
      exact mul_le_mul_of_nonneg_right (by norm_num) (zpow_nonneg zero_le_two _)
    have less : (10 : ℚ) ^ power < 10 ^ 309 :=
      calc (10 : ℚ) ^ power
        _ ≤ significand * 10 ^ power := le_mul_of_one_le_left (by positivity) one
        _ ≤ overflow := small.trans range
        _ < 10 ^ 309 := Double.overflow_lt
    have exponents := (pow_lt_pow_iff_right₀ (by norm_num)).mp less
    omega
  unfold scaled?
  simp only
  rw [if_pos up, if_pos limited, Int.toNat_natCast, Double.isInfinite_mulMagnitude product]
  rfl

/-! ## The greatest doubles -/

/-- The greatest two doubles of either sign. -/
def greatest : List Double :=
  [⟨0x7FEFFFFFFFFFFFFE⟩, ⟨0x7FEFFFFFFFFFFFFF⟩, ⟨0xFFEFFFFFFFFFFFFE⟩, ⟨0xFFEFFFFFFFFFFFFF⟩]

theorem isSome_scaled?_greatest :
    ∀ x ∈ greatest, ∀ negative,
      (scaled? negative (x.shortest .even).digits (x.shortest .even).exponent).isSome = true := by
  decide +kernel

theorem mem_greatest (scale : x.scale = 971) (large : 2 ^ 53 - 2 ≤ x.significand) :
    x ∈ greatest := by
  have range := x.bits.toNat_lt
  have exponent : x.exponentField = 2046 := by
    unfold Double.scale at scale
    omega
  rw [Double.significand, if_neg (by omega)] at large
  have fields : x.bits.toNat / 2 ^ 52 % 2 ^ 11 = 2046 ∧
      2 ^ 53 - 2 ≤ x.bits.toNat % 2 ^ 52 + 2 ^ 52 := ⟨exponent, large⟩
  have patterns : x.bits.toNat ∈ greatest.map (·.bits.toNat) := by
    change x.bits.toNat ∈ [0x7FEFFFFFFFFFFFFE, 0x7FEFFFFFFFFFFFFF,
      0xFFEFFFFFFFFFFFFE, 0xFFEFFFFFFFFFFFFF]
    simp only [List.mem_cons, List.not_mem_nil, or_false]
    omega
  obtain ⟨y, member, same⟩ := List.mem_map.mp patterns
  have equal : y = x := congrArg Double.mk (UInt64.toNat_inj.mp same)
  exact equal ▸ member

/-- The decimal that is written for a number makes a number. -/
theorem isSome_scaled?_shortest (finite : x.isFinite = true) (nonzero : 0 < x.significand)
    (negative : Bool) :
    (scaled? negative (x.shortest .even).digits (x.shortest .even).exponent).isSome = true := by
  by_cases top : x.scale = 971 ∧ 2 ^ 53 - 2 ≤ x.significand
  · exact isSome_scaled?_greatest x (mem_greatest top.1 top.2) negative
  have writes := Double.writes_shortest nonzero .even
  have half : (2 : ℚ) ^ (971 : ℤ) = 2 ^ (970 : ℤ) * 2 := zpow_add_one₀ two_ne_zero 970
  have unit : (0 : ℚ) < 2 ^ x.scale := zpow_pos two_pos _
  refine isSome_scaled?_of_le writes.positive ?_
  rw [← Decimal.value_eq]
  refine writes.near.trans ?_
  have reach : x.scale ≤ 971 := Double.scale_le finite
  -- In lower units the decimal is far from the end; in the last one it is two units below it.
  rcases Int.lt_or_eq_of_le reach with lower | last
  · have small : (x.significand : ℚ) + 1 ≤ 2 ^ 53 := by exact_mod_cast x.significand_lt
    have power : (2 : ℚ) ^ x.scale ≤ 2 ^ (970 : ℤ) := zpow_le_zpow_right₀ one_le_two (by omega)
    have product := mul_le_mul small power unit.le (by positivity)
    have rest : (0 : ℚ) < 2 ^ (970 : ℤ) := zpow_pos two_pos _
    rw [half]
    generalize (2 : ℚ) ^ (970 : ℤ) = lesser at product rest ⊢
    linarith
  · have small : x.significand + 3 ≤ 2 ^ 53 := by omega
    have small' : (x.significand : ℚ) + 3 ≤ 2 ^ 53 := by exact_mod_cast small
    rw [last] at unit ⊢
    exact mul_le_mul_of_nonneg_right (by linarith) unit.le

end EntryStore.Json
