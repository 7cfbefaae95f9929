import Reckoner.Binary64.Arithmetic
import Reckoner.Binary64.Decimal
import Reckoner.Binary64.Power
import Reckoner.Expr.Parser
import Reckoner.Value

/-!
# Rounded evaluation

Any expression can be computed with floating-point numbers. The noise that rounding leaves in the
last digits of the result is then removed by `normalize`: a number that is not an integer keeps 15
significant decimal digits.

Division by zero and the like give values that are not finite; only a text that is no expression has
no value.
-/

namespace Reckoner

/-! ## Trees -/

def Op.rounded : Op → Binary64 → Binary64 → Binary64
  | add => .add
  | sub => .sub
  | mul => .mul
  | div => .div
  | rem => .rem
  | hat | pow => .pow

def Sign.rounded : Sign → Binary64 → Binary64
  | plus, x => x
  | minus, x => x.neg

def Expr.rounded : Expr → Binary64
  | number n => .ofNumeral n
  | signed sign operand => sign.rounded operand.rounded
  | binary op left right => op.rounded left.rounded right.rounded

/-! ## Noise -/

/-- The decimal digits that are kept. -/
def significantDigits : Nat := 15

/-- Below this magnitude a number is never changed. -/
def tinyMagnitude : Binary64 := .ofDecimal false 1 (-10)

/-- Below this magnitude a number is shown with a power of ten, and all its digits are kept. -/
def exponentFormBelow : Binary64 := .ofDecimal false 1 (-6)

/-- An integer if the number is a safe one, and otherwise the number. -/
def Value.ofBinary64 (x : Binary64) : Value :=
  match x.toInt? with
  | some z => if isSafe z then .integer z else .float x
  | none => .float x

/-- The result of a floating-point number: a safe integer becomes an integer, other integers and
small numbers stay as they are, and everything else is rounded to 15 digits. -/
def normalize (x : Binary64) : Value :=
  if !x.isFinite then .float x
  else if !x.isZero && x.magnitudeLt tinyMagnitude then .float x
  else if x.toInt?.isSome then .ofBinary64 x
  else if x.magnitudeLt exponentFormBelow then .float x
  else .ofBinary64 (x.roundSignificant significantDigits)

def roundedValue (text : List Char) : Except SyntaxError Value :=
  match Expr.parse text with
  | .error e => .error e
  | .ok tree => .ok (normalize tree.rounded)

end Reckoner
