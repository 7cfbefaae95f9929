import Reckoner.Expr.Parser
import Reckoner.Value

/-!
# Exact evaluation

Expressions of integers are computed without rounding:

* sums, differences, products and remainders of integer literals,
* powers written `**`, as long as they stay integers of a bounded width.

Blanks are removed before the text is parsed, so digits that are separated by blanks are one
number. `Expr.exact` is the value of a tree, `exactValue` that of a text, and `Refusal` says why
there is none.
-/

namespace Reckoner

-- Powers are those of the core library, whatever else is in scope.
attribute [local instance (high)] instPowNat

/-- Why an expression has no exact value. -/
inductive Refusal where
  /-- The text is not an expression. -/
  | malformed (error : SyntaxError)
  /-- The operator leads out of the integers. -/
  | inexactOperator
  /-- A literal has a point. -/
  | decimalLiteral
  /-- An exponent is negative. -/
  | negativeExponent
  /-- A power may be too wide. -/
  | widePower
  /-- A remainder by zero. -/
  | zeroDivisor
  /-- A literal or the value has too many digits. -/
  | tooManyDigits
  deriving DecidableEq, Repr

def Refusal.label : Refusal → String
  | malformed _ => "ExpressionSyntaxError"
  | inexactOperator | decimalLiteral | negativeExponent | widePower => "_NotExact"
  | zeroDivisor => "ZeroDivisionError"
  | tooManyDigits => "ValueError"

/-! ## Operations -/

def maxPowerBits : Nat := 10000

def bitLength (n : Nat) : Nat :=
  if n = 0 then 0 else n.log2 + 1

/-- The remainder with the sign of the dividend. -/
def truncatedRemainder (dividend divisor : Int) : Except Refusal Int :=
  if divisor = 0 then .error .zeroDivisor else .ok (dividend.tmod divisor)

/-- A power with an exponent that is not negative. It is refused if the width of the base times the
exponent is over the bound. Zero has no width, so that its powers are never refused. -/
def integerPower (base exponent : Int) : Except Refusal Int :=
  if exponent < 0 then .error .negativeExponent
  else if exponent ≠ 0 ∧ maxPowerBits < bitLength base.natAbs * exponent.toNat then
    .error .widePower
  -- No exponent is too large for zero.
  else if base = 0 ∧ exponent ≠ 0 then .ok 0
  else .ok (base ^ exponent.toNat)

def Op.exact (op : Op) (left right : Int) : Except Refusal Int :=
  match op with
  | add => .ok (left + right)
  | sub => .ok (left - right)
  | mul => .ok (left * right)
  | rem => truncatedRemainder left right
  | pow => integerPower left right
  | div | hat => .error .inexactOperator

def Sign.exact : Sign → Int → Int
  | plus, z => z
  | minus, z => -z

/-- The value of a literal. Leading zeros count as digits. -/
def Numeral.exact : Numeral → Except Refusal Int
  | integer whole =>
    if Text.Digits.maxRun < whole.toList.length then .error .tooManyDigits
    else .ok (Text.Digits.value whole.toList)
  | mixed _ _ | fraction _ => .error .decimalLiteral

/-! ## Trees and texts -/

namespace Expr

/-- The exact value of a tree. Operands are computed from left to right, and the first refusal
counts. -/
def exact : Expr → Except Refusal Int
  | number n => n.exact
  | signed sign operand =>
    match operand.exact with
    | .error why => .error why
    | .ok z => .ok (sign.exact z)
  | binary op left right =>
    match left.exact with
    | .error why => .error why
    | .ok l =>
      match right.exact with
      | .error why => .error why
      | .ok r => op.exact l r

/-- Whether a node is an operator that leads out of the integers. -/
def isInexactOperator : Expr → Bool
  | binary .div _ _ | binary .hat _ _ => true
  | _ => false

end Expr

/-- The result of an integer: the integer if it is safe, and otherwise its digits. -/
def Value.ofExact (z : Int) : Except Refusal Value :=
  if isSafe z then .ok (.integer z)
  else if 10 ^ Text.Digits.maxRun ≤ z.natAbs then .error .tooManyDigits
  else .ok (.text (String.ofList (Text.Digits.textInt z)))

/-- The exact value of a text, once the blanks are removed. An operator that leads out of the
integers is looked for first. -/
def exactValue (text : List Char) : Except Refusal Value :=
  match Expr.parse (Text.squeeze text) with
  | .error e => .error (.malformed e)
  | .ok tree =>
    if tree.nodes.any Expr.isInexactOperator then .error .inexactOperator
    else
      match tree.exact with
      | .error why => .error why
      | .ok z => Value.ofExact z

end Reckoner
