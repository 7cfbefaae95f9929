import Reckoner.Binary64.Basic

/-!
# Arithmetic of binary64 numbers

Each operation is done exactly on the counts of units and rounded once. An operation that has no
result gives `nan`, and one with an undefined argument is undefined. The sign of a zero is kept:

* a sum of opposite numbers is the positive zero,
* a product or quotient takes its sign from both arguments,
* a remainder takes its sign from the dividend.
-/

namespace Reckoner.Binary64

def neg : Binary64 → Binary64
  | nan => nan
  | infinite negative => infinite !negative
  | finite negative units fits => finite (!negative) units fits

def abs : Binary64 → Binary64
  | nan => nan
  | infinite _ => infinite false
  | finite _ units fits => finite false units fits

def signedUnits (negative : Bool) (units : Nat) : Int :=
  if negative then -units else units

/-- The sum. Infinities of different sign have none. -/
def add : Binary64 → Binary64 → Binary64
  | nan, _ | _, nan => nan
  | infinite s, infinite t => if s = t then infinite s else nan
  | infinite s, finite .. => infinite s
  | finite .., infinite t => infinite t
  | finite s a _, finite t b _ =>
    let sum := signedUnits s a + signedUnits t b
    if sum = 0 then zero (s && t) else ofRatio (sum < 0) sum.natAbs 1

def sub (x y : Binary64) : Binary64 :=
  add x y.neg

/-- The product. Infinity times zero has none. -/
def mul : Binary64 → Binary64 → Binary64
  | nan, _ | _, nan => nan
  | infinite s, infinite t => infinite (s != t)
  | infinite s, finite t b _ => if b = 0 then nan else infinite (s != t)
  | finite s a _, infinite t => if a = 0 then nan else infinite (s != t)
  | finite s a _, finite t b _ => ofRatio (s != t) (a * b) one

/-- The quotient. A number other than zero divided by zero is infinite; zero by zero and infinity by
infinity have no quotient. -/
def div : Binary64 → Binary64 → Binary64
  | nan, _ | _, nan => nan
  | infinite _, infinite _ => nan
  | infinite s, finite t _ _ => infinite (s != t)
  | finite s _ _, infinite t => zero (s != t)
  | finite s a _, finite t b _ =>
    if b = 0 then (if a = 0 then nan else infinite (s != t))
    else ofRatio (s != t) (a * one) b

/-- The remainder of the quotient cut off to an integer. A zero divisor and an infinite dividend
have none; an infinite divisor leaves the dividend. -/
def rem : Binary64 → Binary64 → Binary64
  | nan, _ | _, nan => nan
  | infinite _, _ => nan
  | finite s a fits, infinite _ => finite s a fits
  | finite s a _, finite _ b _ => if b = 0 then nan else ofRatio s (a % b) 1

end Reckoner.Binary64
