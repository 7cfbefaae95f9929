import Reckoner.Binary64.Shortest

/-!
# Results

The value of an evaluated expression, and how it is shown:

* an integer, as long as its magnitude is exact in a floating-point number,
* the digits of a larger integer, as text,
* a floating-point number.
-/

namespace Reckoner

-- Powers are those of the core library, whatever else is in scope.
attribute [local instance (high)] instPowNat

inductive Value where
  | integer (z : Int)
  | float (x : Binary64)
  | text (s : String)
  deriving DecidableEq

/-- The largest magnitude up to which every integer is a floating-point number. -/
def maxSafeInteger : Nat := 2 ^ (53 : Nat) - 1

def isSafe (z : Int) : Bool :=
  z.natAbs ≤ maxSafeInteger

namespace Value

/-- From this magnitude on, an integral number is shown as it is, with a power of ten. -/
def shownAsIntegerBelow : Binary64 := .ofDecimal false 1 16

def display : Value → String
  | integer z => String.ofList (Text.Digits.textInt z)
  | float x =>
    match x.toInt? with
    | some z =>
      if x.magnitudeLt shownAsIntegerBelow then String.ofList (Text.Digits.textInt z) else x.text
    | none => x.text
  | text s => s

/-- The text in which a value is shown, if it can be written: an integer of too many digits has
none. -/
def display? (value : Value) : Option String :=
  match value with
  | integer z => if z.natAbs < 10 ^ Text.Digits.maxRun then some value.display else none
  | float _ | text _ => some value.display

theorem display?_eq_none_iff {value : Value} :
    value.display? = none ↔ ∃ z, value = .integer z ∧ 10 ^ Text.Digits.maxRun ≤ z.natAbs := by
  cases value with
  | integer z =>
    simp only [display?, integer.injEq, exists_eq_left']
    split <;> simp_all
  | float _ | text _ => simp [display?]

theorem display_of_display? {value : Value} {shown : String}
    (written : value.display? = some shown) : shown = value.display := by
  cases value with
  | integer z =>
    simp only [display?] at written
    split at written
    · exact (Option.some.inj written).symm
    · cases written
  | float _ | text _ => exact (Option.some.inj written).symm

/-- Whether a value is an infinity or undefined. -/
def isUnbounded : Value → Bool
  | float x => !x.isFinite
  | _ => false

end Value

end Reckoner
