import Reckoner.Binary64.Basic
import Reckoner.Expr.Basic

/-!
# Binary64 numbers and decimals

Reading a decimal, and rounding to a number of significant decimal digits:

* `ofDecimal` is the number nearest to a coefficient times a power of ten,
* `ofNumeral` reads a numeral as it is spelled,
* `roundSignificant` rounds the exact value of a number to decimal digits, a half to the even digit,
  and reads the decimal back.
-/

namespace Reckoner

-- Powers are those of the core library, whatever else is in scope.
attribute [local instance (high)] instPowNat

/-- The exponent of the leading decimal digit of a number that is not zero. -/
def ilog10 (n : Nat) : Nat :=
  if n < 10 then 0 else ilog10 (n / 10) + 1
termination_by n

/-- The greatest power of ten, by its exponent, that a positive quotient reaches. -/
def leadingExponent (num den : Nat) : Int :=
  if den ≤ num then ilog10 (num / den)
  else -(ilog10 ((den + num - 1) / num - 1) + 1)

/-- A quotient times a power of ten, as numerator and denominator. -/
def timesPowerOfTen (num den : Nat) (exponent : Int) : Nat × Nat :=
  if 0 ≤ exponent then (num * 10 ^ exponent.toNat, den)
  else (num, den * 10 ^ (-exponent).toNat)

namespace Binary64

/-- The number of a sign nearest to a coefficient times a power of ten. -/
def ofDecimal (negative : Bool) (coefficient : Nat) (exponent : Int) : Binary64 :=
  let scaled := timesPowerOfTen (coefficient * one) 1 exponent
  ofRatio negative scaled.1 scaled.2

def ofNumeral (n : Numeral) : Binary64 :=
  ofDecimal false (Text.Digits.value (n.wholeDigits ++ n.fractionDigits))
    (-(n.fractionDigits.length : Int))

/-- A number rounded to a count of significant decimal digits, of which there is at least one. -/
def roundSignificant (digits : Nat) : Binary64 → Binary64
  | finite negative units fits =>
    if units = 0 then finite negative units fits
    else
      let places := (max digits 1 : Nat) - 1 - leadingExponent units one
      let scaled := timesPowerOfTen units one places
      ofDecimal negative (roundDiv scaled.1 scaled.2) (-places)
  | x => x

end Binary64

end Reckoner
