import Reckoner.Binary64.Arithmetic

/-!
# Powers of binary64 numbers

The sign of a power, its special values and its overflow are decided here, and so is every whole
power of a whole number that is a number of the format itself. Only a power that has to be rounded
is left to the machine, as a power of a positive base.

* A power that overflows is positive infinity, whatever the sign of the base.
* A negative power of zero and a broken power of a negative number have no result.
-/

namespace Reckoner.Binary64

-- Powers are those of the core library, whatever else is in scope.
attribute [local instance (high)] instPowNat

/-! ## Machine numbers -/

/-- The bits of a number: sign, biased exponent, and the digits behind the leading one. -/
def toBits : Binary64 → Nat
  | nan => 0x7FF8000000000000
  | infinite negative => (if negative then 2 ^ (63 : Nat) else 0) + 0x7FF0000000000000
  | finite negative units _ =>
    let shift := units.log2 - 52
    (if negative then 2 ^ (63 : Nat) else 0) + shift * 2 ^ (52 : Nat) + units / 2 ^ shift

def ofBits (bits : Nat) : Binary64 :=
  let negative := bits / 2 ^ (63 : Nat) % 2 = 1
  let field := bits / 2 ^ (52 : Nat) % 2 ^ (11 : Nat)
  let digits := bits % 2 ^ (52 : Nat)
  if field = 2047 then (if digits = 0 then infinite negative else nan)
  else if field = 0 then ofRatio negative digits 1
  else ofRatio negative ((2 ^ (52 : Nat) + digits) * 2 ^ (field - 1)) 1

def toFloat (x : Binary64) : Float :=
  Float.ofBits (UInt64.ofNat x.toBits)

def ofFloat (x : Float) : Binary64 :=
  ofBits x.toBits.toNat

/-! ## Powers -/

def isOdd (x : Binary64) : Bool :=
  match x.toInt? with
  | some z => z % 2 == 1
  | none => false

/-- A power of two integers, if it overflows or is a number of the format. The leading binary digit
of the base alone tells that a power is too large, so no power of more than 2048 binary digits is
computed. -/
def wholePower? (base exponent : Nat) : Option Binary64 :=
  if base ≤ 1 then some (ofInt base)
  else if wholePlaces ≤ base.log2 * exponent then some (infinite false)
  else
    let units := base ^ exponent * one
    if h : Fits units then some (finite false units h) else none

/-- A power of a positive finite base. -/
def positivePower (base exponent : Binary64) : Binary64 :=
  let exact :=
    match base.toInt?, exponent.toInt? with
    | some b, some e => if 0 ≤ e then wholePower? b.toNat e.toNat else none
    | _, _ => none
  exact.getD (ofFloat (Float.pow base.toFloat exponent.toFloat))

def finitePower (base exponent : Binary64) : Binary64 :=
  if exponent.isZero then ofInt 1
  else if base.isZero then
    -- A pole has no result.
    if exponent.isNegative then nan else zero (base.isNegative && exponent.isOdd)
  else if base.isNegative && exponent.toInt?.isNone then nan
  else
    match positivePower base.abs exponent with
    | finite _ units fits => finite (base.isNegative && exponent.isOdd) units fits
    -- An overflow keeps the positive sign.
    | infinite _ => infinite false
    | nan => nan

/-- The power. Whatever is raised to zero is one, and so is one raised to anything. -/
def pow (base exponent : Binary64) : Binary64 :=
  match base, exponent with
  | nan, e => if e.isZero then ofInt 1 else nan
  | b, nan => if b = ofInt 1 then b else nan
  | infinite negative, e =>
    if e.isZero then ofInt 1
    else if e.isNegative then zero (negative && e.isOdd)
    else infinite (negative && e.isOdd)
  | b, infinite negative =>
    if b.abs = ofInt 1 then ofInt 1
    else if b.magnitudeLt (ofInt 1) = negative then infinite false
    else zero false
  | b, e => finitePower b e

end Reckoner.Binary64
