import EntryStore.Double.Shortest

/-!
# The written forms of a double

Two layouts are in use.  JSON text switches to scientific notation outside `1e-5 ≤ |x| <
1e16` and always marks a number as fractional, so that it reads back as one; plain text
never uses an exponent.  Both print the fewest digits that identify the number.
-/

namespace EntryStore.Double

/-- A run of zeros. -/
def zeros (count : Nat) : String := String.ofList (List.replicate count '0')

/-- Positional notation; `suffix` follows a number without fractional digits. -/
def positional (d : Decimal) (suffix : String) : String :=
  let digits := Nat.toDigits 10 d.digits
  let pointAt := (digits.length : Int) + d.exponent
  if 0 ≤ d.exponent then
    String.ofList digits ++ zeros d.exponent.toNat ++ suffix
  else if 0 < pointAt then
    String.ofList (digits.take pointAt.toNat) ++ "." ++ String.ofList (digits.drop pointAt.toNat)
  else
    "0." ++ zeros (-pointAt).toNat ++ String.ofList digits

/-- Scientific notation with a signed exponent: `d.ddde+16`, `5e-324`. -/
def scientific (d : Decimal) : String :=
  let digits := Nat.toDigits 10 d.digits
  let exponent := (digits.length : Int) + d.exponent - 1
  let mantissa :=
    match digits with
    | [] => ""
    | [digit] => String.ofList [digit]
    | digit :: rest => String.ofList (digit :: '.' :: rest)
  mantissa ++ (if exponent < 0 then "e-" else "e+") ++ toString exponent.natAbs

/-- The sign of a written number. -/
def signText (x : Double) : String := if x.isNegative then "-" else ""

/-- JSON text of a number.  JSON has no text for NaN and the infinities: they are `null`. -/
def toJsonText (x : Double) : String :=
  if !x.isFinite then "null"
  else if x.isZero then x.signText ++ "0.0"
  else
    let d := x.shortest .even
    let leading := (Decimal.digitCount d.digits : Int) + d.exponent - 1
    x.signText ++ (if -5 ≤ leading ∧ leading < 16 then positional d ".0" else scientific d)

/-- Plain text of a number: positional, without a fraction where it is integral. -/
def toPlainText (x : Double) : String :=
  if x.isNaN then "NaN"
  else if !x.isFinite then x.signText ++ "inf"
  else if x.isZero then x.signText ++ "0"
  else x.signText ++ positional (x.shortest .up) ""

end EntryStore.Double
