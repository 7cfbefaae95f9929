import Reckoner.Text.Digits

/-!
# Expressions

The tree of an arithmetic expression, as it is written:

* `Numeral` is a number as it is spelled,
* `Expr` is built from numerals, signs and binary operators; parentheses leave no node,
* `Expr.preorder` lists the nodes of a tree, and `Expr.nodes` lists them with a work list.

The two listings are the same, `nodes_eq_preorder`.
-/

namespace Reckoner

open Text (Digit Digits.chars)

-- The zero of a sum is the numeral, whatever else is in scope.
attribute [local instance (high)] Zero.ofOfNat0

/-! ## Numerals -/

structure DigitRun where
  first : Digit
  others : List Digit
  deriving DecidableEq, Repr

def DigitRun.toList (run : DigitRun) : List Digit :=
  run.first :: run.others

/-- A number as it is spelled. -/
inductive Numeral where
  /-- Digits alone. -/
  | integer (whole : DigitRun)
  /-- Digits and a point, with or without digits behind it. -/
  | mixed (whole : DigitRun) (behind : List Digit)
  /-- A point and digits. -/
  | fraction (behind : DigitRun)
  deriving DecidableEq, Repr

namespace Numeral

def chars : Numeral → List Char
  | integer whole => Digits.chars whole.toList
  | mixed whole behind => Digits.chars whole.toList ++ '.' :: Digits.chars behind
  | fraction behind => '.' :: Digits.chars behind.toList

def isDecimal : Numeral → Bool
  | integer _ => false
  | mixed _ _ | fraction _ => true

def wholeDigits : Numeral → List Digit
  | integer whole | mixed whole _ => whole.toList
  | fraction _ => []

def fractionDigits : Numeral → List Digit
  | integer _ => []
  | mixed _ behind => behind
  | fraction behind => behind.toList

end Numeral

/-! ## Operators -/

inductive Sign where
  | plus
  | minus
  deriving DecidableEq, Repr

/-- The binary operators. A power has two spellings, which are told apart. -/
inductive Op where
  | add
  | sub
  | mul
  | div
  | rem
  /-- A power written `^`. -/
  | hat
  /-- A power written `**`. -/
  | pow
  deriving DecidableEq, Repr

def Sign.char : Sign → Char
  | plus => '+'
  | minus => '-'

def Op.chars : Op → List Char
  | add => ['+']
  | sub => ['-']
  | mul => ['*']
  | div => ['/']
  | rem => ['%']
  | hat => ['^']
  | pow => ['*', '*']

/-- The sign that an operator can also be read as. -/
def Op.sign? : Op → Option Sign
  | add => some .plus
  | sub => some .minus
  | _ => none

/-- The operators that chain terms. -/
def Op.isAdditive : Op → Bool
  | add | sub => true
  | _ => false

/-- The operators that chain factors. -/
def Op.isMultiplicative : Op → Bool
  | mul | div | rem => true
  | _ => false

def Op.isPower : Op → Bool
  | hat | pow => true
  | _ => false

/-! ## Trees -/

inductive Expr where
  | number (numeral : Numeral)
  | signed (sign : Sign) (operand : Expr)
  | binary (op : Op) (left right : Expr)
  deriving DecidableEq, Repr

namespace Expr

def size : Expr → Nat
  | number _ => 1
  | signed _ operand => operand.size + 1
  | binary _ left right => left.size + right.size + 1

/-- The nodes of a tree, each as the tree below it: the node, then those of its left or only
operand, then those of its right operand. -/
def preorder : Expr → List Expr
  | number n => [number n]
  | signed s operand => signed s operand :: operand.preorder
  | binary o left right => binary o left right :: (left.preorder ++ right.preorder)

/-- The number of nodes below the trees of a work list, which every step lowers. -/
def pendingSize (pending : List Expr) : Nat :=
  (pending.map size).sum

/-- Lists the nodes of the trees on a work list. The first tree is taken off, listed, and its
operands are put back, the left one in front. -/
def walk : List Expr → List Expr
  | [] => []
  | number n :: pending => number n :: walk pending
  | signed s operand :: pending => signed s operand :: walk (operand :: pending)
  | binary o left right :: pending => binary o left right :: walk (left :: right :: pending)
termination_by pending => pendingSize pending
decreasing_by all_goals (simp [pendingSize, size]; try omega)

/-- The nodes of a tree, listed with a work list. -/
def nodes (e : Expr) : List Expr :=
  walk [e]

/-- A work list is listed tree by tree. -/
theorem walk_eq_flatMap (pending : List Expr) : walk pending = pending.flatMap preorder := by
  fun_induction walk pending with
  | case1 => rfl
  | case2 n pending ih => simp [ih, preorder]
  | case3 s operand pending ih => simp [ih, preorder]
  | case4 o left right pending ih => simp [ih, preorder]

/-- The work list visits the nodes in order, each once. -/
theorem nodes_eq_preorder (e : Expr) : e.nodes = e.preorder := by
  simp [nodes, walk_eq_flatMap]

theorem length_preorder (e : Expr) : e.preorder.length = e.size := by
  induction e with
  | number n => rfl
  | signed s operand ih => simp [preorder, size, ih]
  | binary o left right ihl ihr => simp [preorder, size, ihl, ihr]

end Expr

end Reckoner
