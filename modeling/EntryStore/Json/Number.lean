import EntryStore.Json.Fault

/-!
# Reading JSON numbers

A number without point and exponent is an integer if it fits 64 bits, unsigned or negative.
Any other number is a double, computed from a significand of 64 bits and a power of ten:
digits that no longer fit the significand are dropped, and those left of the point are
counted into the exponent.  The significand is rounded to a double first, then multiplied
or divided by the power of ten, rounded again.
-/

namespace EntryStore.Json

/-- A number as it is read: an integer of 64 bits, or a double. -/
inductive Numeral where
  | integer (value : Int)
  | float (value : Double)
  deriving Repr

/-- The document that consists of a number. -/
def Numeral.toJson : Numeral → Json
  | .integer value => .integer value
  | .float value => .float value

/-- How a number is named in a message. -/
def Numeral.found : Numeral → Found
  | .integer value => .integer value
  | .float value => .float value

/-- The value of a decimal digit. -/
def digit? (c : Char) : Option Nat :=
  if '0' ≤ c ∧ c ≤ '9' then some (c.toNat - '0'.toNat) else none

/-- The rest after the digits in front. -/
def dropDigits (text : List Char) : List Char := text.dropWhile fun c => (digit? c).isSome

/-- The greatest significand. -/
def maxSignificand : Nat := 0xFFFFFFFFFFFFFFFF

/-- Digits appended to a significand, as far as they fit. -/
structure Digits where
  significand : Nat
  /-- how many digits were appended -/
  count : Nat
  /-- stopped in front of a digit that does not fit -/
  full : Bool
  rest : List Char

/-- Appends the digits in front of a text to a significand. -/
def appendDigits (significand count : Nat) : List Char → Digits
  | [] => ⟨significand, count, false, []⟩
  | c :: rest =>
      match digit? c with
      | none => ⟨significand, count, false, c :: rest⟩
      | some digit =>
          if maxSignificand < 10 * significand + digit then ⟨significand, count, true, c :: rest⟩
          else appendDigits (10 * significand + digit) (count + 1) rest

/-- A power of ten as a double. -/
def powerOfTen (exponent : Nat) : Double := Double.ofNat (Nat.pow 10 exponent)

/-- The double `significand * 10 ^ exponent`; `none` when it is too great.  Below `1e-308` the
power is divided out in two steps, and a third would leave nothing of a significand. -/
def scaled? (negative : Bool) (significand : Nat) (exponent : Int) : Option Double :=
  let base := Double.ofNat significand
  let signed := fun x : Double => if negative then -x else x
  if 0 ≤ exponent then
    if exponent ≤ 308 then
      let product := base.mulMagnitude (powerOfTen exponent.toNat)
      if product.isInfinite then none else some (signed product)
    else if base.isZero then some (signed base)
    else none
  else if -308 ≤ exponent then
    some (signed (base.divMagnitude (powerOfTen (-exponent).toNat)))
  else if -616 ≤ exponent then
    let small := base.divMagnitude (powerOfTen 308)
    some (signed (small.divMagnitude (powerOfTen (-exponent - 308).toNat)))
  else some (signed (Double.ofNat 0))

/-- The double of its parts, or a fault behind the number. -/
def floatOfParts (negative : Bool) (significand : Nat) (exponent : Int) (rest : List Char) :
    Except Fault (Numeral × List Char) :=
  match scaled? negative significand exponent with
  | some value => .ok (.float value, rest)
  | none => faultBefore .numberOutOfRange rest

/-- The greatest exponent that is counted; beyond, a number is zero or out of range. -/
def maxExponent : Nat := 0x7FFFFFFF

/-- The digits of an exponent after its first; `none` in front of a digit that makes it too
great, together with the rest after that digit. -/
def exponentDigits (value : Nat) : List Char → Option Nat × List Char
  | [] => (some value, [])
  | c :: rest =>
      match digit? c with
      | none => (some value, c :: rest)
      | some digit =>
          if maxExponent < 10 * value + digit then (none, rest)
          else exponentDigits (10 * value + digit) rest

/-- The sign of an exponent, true for a negative one. -/
def exponentSign : List Char → Bool × List Char
  | '+' :: rest => (false, rest)
  | '-' :: rest => (true, rest)
  | rest => (false, rest)

/-- Reads what follows the exponent mark. -/
def exponentPart (negative : Bool) (significand : Nat) (exponent : Int) (text : List Char) :
    Except Fault (Numeral × List Char) :=
  let (down, text) := exponentSign text
  match text with
  | [] => faultBefore .endOfValue []
  | c :: rest =>
      match digit? c with
      | none => faultAt .invalidNumber (c :: rest)
      | some digit =>
          match exponentDigits digit rest with
          | (some value, rest) =>
              floatOfParts negative significand
                (if down then exponent - value else exponent + value)
                rest
          | (none, rest) =>
              if significand ≠ 0 ∧ down = false then faultBefore .numberOutOfRange rest
              else .ok (.float (Double.ofPattern negative 0), dropDigits rest)

/-- Reads an exponent, if one follows, and makes the double. -/
def exponentOrEnd (negative : Bool) (significand : Nat) (exponent : Int) (text : List Char) :
    Except Fault (Numeral × List Char) :=
  match text with
  | 'e' :: rest | 'E' :: rest => exponentPart negative significand exponent rest
  | rest => floatOfParts negative significand exponent rest

/-- Reads what follows the point. -/
def fractionPart (negative : Bool) (significand : Nat) (exponent : Int) (text : List Char) :
    Except Fault (Numeral × List Char) :=
  let digits := appendDigits significand 0 text
  let exponent := exponent - digits.count
  if digits.full then
    exponentOrEnd negative digits.significand exponent (dropDigits digits.rest)
  else if digits.count = 0 then
    match digits.rest with
    | [] => faultAt .endOfValue []
    | rest => faultAt .invalidNumber rest
  else exponentOrEnd negative digits.significand exponent digits.rest

/-- Reads what follows an integral part whose digits did not all fit; `dropped` is the count
of those that did not. -/
def longInteger (negative : Bool) (significand dropped : Nat) (text : List Char) :
    Except Fault (Numeral × List Char) :=
  match text with
  | '.' :: rest => fractionPart negative significand dropped rest
  | rest => exponentOrEnd negative significand dropped rest

/-- Reads what follows an integral part that fits. -/
def shortInteger (negative : Bool) (significand : Nat) (text : List Char) :
    Except Fault (Numeral × List Char) :=
  match text with
  | '.' :: rest => fractionPart negative significand 0 rest
  | 'e' :: rest | 'E' :: rest => exponentPart negative significand 0 rest
  | rest =>
      if negative then
        if 0 < significand ∧ significand ≤ 0x8000000000000000 then
          .ok (.integer (-significand), rest)
        else .ok (.float (-(Double.ofNat significand)), rest)
      else .ok (.integer significand, rest)

/-- Reads the digits of a number, after its sign. -/
def unsignedNumber (negative : Bool) (text : List Char) : Except Fault (Numeral × List Char) :=
  match text with
  | [] => faultBefore .endOfValue []
  | '0' :: rest =>
      match rest with
      | c :: _ =>
          if (digit? c).isSome then faultAt .invalidNumber rest else shortInteger negative 0 rest
      | [] => shortInteger negative 0 []
  | c :: rest =>
      match digit? c with
      | none => faultAt .invalidNumber (c :: rest)
      | some digit =>
          let digits := appendDigits digit 0 rest
          if digits.full then
            let beyond := dropDigits digits.rest
            longInteger negative digits.significand (digits.rest.length - beyond.length) beyond
          else shortInteger negative digits.significand digits.rest

/-- Reads a number. -/
def number (text : List Char) : Except Fault (Numeral × List Char) :=
  match text with
  | '-' :: rest => unsignedNumber true rest
  | rest => unsignedNumber false rest

/-- Whether a text begins like a number. -/
def startsNumber (c : Char) : Bool := c == '-' || (digit? c).isSome

end EntryStore.Json
