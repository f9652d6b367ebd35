import EntryStore.Double.Basic

/-!
# The fewest digits that identify a double

Every finite positive double is the rounding of an interval of fractions around it.
`Double.shortest` finds a decimal in that interval with as few digits as possible and,
among those, the one nearest to the number.  All comparisons are made on natural numbers.
-/

namespace EntryStore

/-- The decimal `digits * 10 ^ exponent`. -/
structure Decimal where
  digits : Nat
  exponent : Int
  deriving DecidableEq, Repr

namespace Decimal

/-- Numerator of a decimal. -/
def numerator (d : Decimal) : Nat := d.digits * Nat.pow 10 d.exponent.toNat

/-- Denominator of a decimal, a power of ten. -/
def denominator (d : Decimal) : Nat := Nat.pow 10 (-d.exponent).toNat

/-- Moves trailing zeros of the digits into the exponent, at most `limit` of them. -/
def stripZeros (limit : Nat) (d : Decimal) : Decimal :=
  match limit with
  | 0 => d
  | limit + 1 =>
      if d.digits % 10 = 0 ∧ d.digits ≠ 0 then
        stripZeros limit ⟨d.digits / 10, d.exponent + 1⟩
      else d

/-- Number of decimal digits of a natural number; zero has none. -/
def digitCount (n : Nat) : Nat :=
  if n = 0 then 0 else (Nat.toDigits 10 n).length

end Decimal

/-- Which of two equally near decimals of the same length is chosen. -/
inductive TieBreak where
  /-- the one whose last digit is even -/
  | even
  /-- the greater one -/
  | up
  deriving DecidableEq, Repr

namespace Double

/-- The significand is the least one of its exponent, so the number below is only half as
far away as the number above. -/
def narrowBelow (x : Double) : Bool := x.fraction == 0 && decide (1 < x.exponentField)

/-- Whether a decimal lies among the fractions that round to the magnitude of `x`.  The
interval reaches half way to either neighbour and contains its ends exactly when the
significand is even. -/
def identifiedBy (x : Double) (d : Decimal) : Bool :=
  let quarter := x.denominator * 4
  let unit := Nat.pow 2 x.scale.toNat
  let low := (4 * x.significand - (if x.narrowBelow then 1 else 2)) * unit
  let high := (4 * x.significand + 2) * unit
  let closed := x.significand % 2 == 0
  let aboveLow := compare (d.numerator * quarter) (low * d.denominator)
  let belowHigh := compare (d.numerator * quarter) (high * d.denominator)
  (aboveLow == .gt || (closed && aboveLow == .eq)) &&
    (belowHigh == .lt || (closed && belowHigh == .eq))

/-- The decimal exponent of the leading digit of a non-zero finite number. -/
def leadingExponent (x : Double) : Int :=
  if x.denominator ≤ x.numerator then
    (Decimal.digitCount (x.numerator / x.denominator) : Int) - 1
  else
    -(Decimal.digitCount ((x.denominator - 1) / x.numerator) : Int)

/-- The better of the two neighbours of `x` on the grid of multiples of `10 ^ exponent`,
if one of them identifies `x`. -/
def nearestOnGrid? (tie : TieBreak) (x : Double) (exponent : Int) : Option Decimal :=
  let num := x.numerator * Nat.pow 10 (-exponent).toNat
  let den := x.denominator * Nat.pow 10 exponent.toNat
  let below : Decimal := ⟨num / den, exponent⟩
  let above : Decimal := ⟨num / den + 1, exponent⟩
  match x.identifiedBy below, x.identifiedBy above with
  | false, false => none
  | true, false => some below
  | false, true => some above
  | true, true =>
      match compare (2 * (num % den)) den with
      | .lt => some below
      | .gt => some above
      | .eq =>
          match tie with
          | .up => some above
          | .even => some (if below.digits % 2 = 0 then below else above)

/-- The exact decimal expansion of the magnitude of `x`. -/
def exactDecimal (x : Double) : Decimal :=
  ⟨x.significand * Nat.pow 2 x.scale.toNat * Nat.pow 5 (-x.scale).toNat, min x.scale 0⟩

/-- A shortest decimal that identifies the magnitude of a non-zero finite number: the
first of the grids with 1, 2, … 17 digits that holds such a decimal decides. -/
def shortest (tie : TieBreak) (x : Double) : Decimal :=
  let leading := x.leadingExponent
  let candidate := (List.range 17).findSome? fun digits : Nat =>
    x.nearestOnGrid? tie (leading - digits)
  (candidate.getD x.exactDecimal).stripZeros 17

end Double

end EntryStore
