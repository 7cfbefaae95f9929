import Reckoner.Binary64.Decimal

/-!
# The shortest text of a binary64 number

A finite number is written with the fewest decimal digits that read back to it, and among decimals
of that length with the nearest one. The digits are found on the grids of 1, 2, … 17 digits: the
number lies between two neighbours of a grid, and if any point of the grid reads back, so does one
of the two.

`NumberFormat` holds the decisions about the text around the digits.
-/

namespace Reckoner

open Text (Digit Digits.chars Digits.ofNat Digits.text)

namespace Binary64

/-- Seventeen digits tell all numbers of the format apart. -/
def maxDigits : Nat := 17

/-- Whether a decimal reads back to a positive count of units. -/
def readsBack (units coefficient : Nat) (exponent : Int) : Bool :=
  (ofDecimal false coefficient exponent).units? == some units

/-- The coefficient that reads back to a positive count of units on the grid of a power of ten, if
a neighbour of the number does. If both do, the nearer one is taken, or the even one of two at the
same distance. -/
def onGrid? (units : Nat) (exponent : Int) : Option Nat :=
  let scaled := timesPowerOfTen units one (-exponent)
  let floor := scaled.1 / scaled.2
  if readsBack units floor exponent then
    -- On a coarse grid both neighbours can read back.
    if readsBack units (floor + 1) exponent then some (roundDiv scaled.1 scaled.2)
    else some floor
  else if readsBack units (floor + 1) exponent then some (floor + 1)
  else none

/-- The decimal of a count of digits that is nearest to a positive count of units, as coefficient
and exponent. -/
def roundedDecimal (units digits : Nat) : Nat × Int :=
  let exponent := leadingExponent units one + 1 - digits
  let scaled := timesPowerOfTen units one (-exponent)
  (roundDiv scaled.1 scaled.2, exponent)

/-- The decimal of a count of digits that reads back to a positive count of units, if there is
one. -/
def exactDecimal? (units digits : Nat) : Option (Nat × Int) :=
  let exponent := leadingExponent units one + 1 - digits
  (onGrid? units exponent).map (·, exponent)

/-- The shortest decimal that reads back to a positive count of units, as coefficient and
exponent. -/
def shortest (units : Nat) : Nat × Int :=
  ((List.range' 1 maxDigits).findSome? (exactDecimal? units)).getD (roundedDecimal units maxDigits)

end Binary64

/-! ## The text around the digits -/

structure NumberFormat where
  /-- The least exponent of the leading digit that is written without a power of ten. -/
  positionalFrom : Int
  /-- The first exponent that is again written with a power of ten. -/
  positionalBelow : Int
  /-- The least count of digits of a written exponent. -/
  exponentWidth : Nat

/-- Positional from `0.0001` up to ten to the sixteenth; an exponent has a sign and two digits. -/
def NumberFormat.standard : NumberFormat := ⟨-4, 16, 2⟩

namespace NumberFormat

def dropZeros (ds : List Digit) : List Digit :=
  (ds.reverse.dropWhile (· == 0)).reverse

/-- Digits in positional notation; there is a digit on both sides of the point. -/
def positional (ds : List Digit) (exponent : Int) : List Char :=
  if exponent < 0 then
    '0' :: '.' :: List.replicate (-exponent - 1).toNat '0' ++ Digits.chars ds
  else
    let wholeLength := exponent.toNat + 1
    let whole := ds.take wholeLength
    let behind := ds.drop wholeLength
    Digits.chars whole ++ List.replicate (wholeLength - whole.length) '0' ++ '.' ::
      (if behind.isEmpty then ['0'] else Digits.chars behind)

/-- Digits with a power of ten; a point only if there is more than one digit. -/
def scientific (format : NumberFormat) (ds : List Digit) (exponent : Int) : List Char :=
  let power := Digits.text exponent.natAbs
  let mantissa :=
    match Digits.chars ds with
    | first :: second :: rest => first :: '.' :: second :: rest
    | short => short
  mantissa ++ 'e' :: (if exponent < 0 then '-' else '+') ::
    (List.replicate (format.exponentWidth - power.length) '0' ++ power)

def decimal (format : NumberFormat) (coefficient : Nat) (exponent : Int) : List Char :=
  let all := Digits.ofNat coefficient
  let leading := exponent + all.length - 1
  let ds := dropZeros all
  if format.positionalFrom ≤ leading ∧ leading < format.positionalBelow then positional ds leading
  else format.scientific ds leading

def chars (format : NumberFormat) : Binary64 → List Char
  | .nan => ['n', 'a', 'n']
  | .infinite negative => (if negative then ['-'] else []) ++ ['i', 'n', 'f']
  | .finite negative units _ =>
    (if negative then ['-'] else []) ++
      if units = 0 then ['0', '.', '0']
      else format.decimal (Binary64.shortest units).1 (Binary64.shortest units).2

end NumberFormat

def Binary64.text (x : Binary64) : String :=
  String.ofList (NumberFormat.standard.chars x)

end Reckoner
