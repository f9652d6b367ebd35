/-!
# Binary floating-point numbers

A `Double` is the 64-bit pattern of an IEEE 754 double.  Its value is read off the
pattern as an exact fraction of natural numbers, and every operation computes that
exact fraction first and rounds it once, to the nearest double with ties to the even
pattern.  No machine arithmetic is involved, so each operation can be reasoned about on
the bits.
-/

namespace EntryStore

/-- A double-precision number, given by its bit pattern: sign, 11 bits of exponent, 52
bits of fraction. -/
structure Double where
  bits : UInt64
  deriving DecidableEq, Repr, Inhabited

namespace Double

/-- The sign bit; set for negative numbers and for the negative zero. -/
def isNegative (x : Double) : Bool := x.bits.toNat / Nat.pow 2 63 == 1

/-- The biased exponent field, below 2048. -/
def exponentField (x : Double) : Nat := x.bits.toNat / Nat.pow 2 52 % Nat.pow 2 11

/-- The fraction field, below 2 ^ 52. -/
def fraction (x : Double) : Nat := x.bits.toNat % Nat.pow 2 52

/-- Neither infinite nor NaN. -/
def isFinite (x : Double) : Bool := x.exponentField != 2047

def isInfinite (x : Double) : Bool := x.exponentField == 2047 && x.fraction == 0

def isNaN (x : Double) : Bool := x.exponentField == 2047 && x.fraction != 0

def isZero (x : Double) : Bool := x.exponentField == 0 && x.fraction == 0

/-- The integral significand of a finite number, with the hidden bit of the normal ones. -/
def significand (x : Double) : Nat :=
  if x.exponentField = 0 then x.fraction else x.fraction + Nat.pow 2 52

/-- The power of two that scales the significand of a finite number. -/
def scale (x : Double) : Int := (max x.exponentField 1 : Nat) - (1075 : Int)

/-- Numerator of the magnitude of a finite number. -/
def numerator (x : Double) : Nat := x.significand * Nat.pow 2 x.scale.toNat

/-- Denominator of the magnitude of a finite number, a power of two. -/
def denominator (x : Double) : Nat := Nat.pow 2 (-x.scale).toNat

/-- The pattern of positive infinity; smaller patterns without a sign are finite. -/
def infinityPattern : Nat := 2047 * Nat.pow 2 52

/-- The number with a given sign and a pattern for the remaining 63 bits. -/
def ofPattern (negative : Bool) (pattern : Nat) : Double :=
  ⟨UInt64.ofNat (if negative then Nat.pow 2 63 + pattern else pattern)⟩

/-- The same magnitude with the other sign. -/
def neg (x : Double) : Double :=
  ofPattern (!x.isNegative) (x.bits.toNat % Nat.pow 2 63)

instance : Neg Double := ⟨neg⟩

/-- The quotient of two naturals, rounded to the nearest natural; a tie goes to the even
neighbour. -/
def roundQuotient (num den : Nat) : Nat :=
  let quotient := num / den
  let twice := 2 * (num % den)
  if twice > den || (twice == den && quotient % 2 == 1) then quotient + 1 else quotient

/-- The exponent `e` with `2 ^ e ≤ num / den < 2 ^ (e + 1)`, for positive `num` and `den`. -/
def binaryExponent (num den : Nat) : Int :=
  let guess := (num.log2 : Int) - den.log2
  if num * Nat.pow 2 (-guess).toNat < den * Nat.pow 2 guess.toNat then guess - 1 else guess

/-- The unsigned pattern nearest to a fraction.  The unit in the last place is chosen so
that the rounded significand has at most 53 bits and never lies below the smallest
subnormal unit; adding the scaled unit to the significand carries into the exponent field
when rounding up reaches the next power of two. -/
def roundPattern (num den : Nat) : Nat :=
  if num = 0 then 0
  else
    let unit := max (binaryExponent num den - 52) (-1074)
    let rounded := roundQuotient (num * Nat.pow 2 (-unit).toNat) (den * Nat.pow 2 unit.toNat)
    min ((unit + 1074).toNat * Nat.pow 2 52 + rounded) infinityPattern

/-- The double nearest to the fraction `num / den` with the given sign. -/
def ofFraction (negative : Bool) (num den : Nat) : Double :=
  ofPattern negative (roundPattern num den)

/-- The double nearest to a natural number. -/
def ofNat (n : Nat) : Double := ofFraction false n 1

/-- The double nearest to an integer. -/
def ofInt (n : Int) : Double := ofFraction (n < 0) n.natAbs 1

/-- Product of two finite non-negative numbers. -/
def mulMagnitude (x y : Double) : Double :=
  ofFraction false (x.numerator * y.numerator) (x.denominator * y.denominator)

/-- Quotient of two finite non-negative numbers, the second one not zero. -/
def divMagnitude (x y : Double) : Double :=
  ofFraction false (x.numerator * y.denominator) (x.denominator * y.numerator)

end Double

end EntryStore
