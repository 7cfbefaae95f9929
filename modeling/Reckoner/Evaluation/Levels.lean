import Reckoner.Calculator

/-!
# Bounded recursion

An evaluation of a tree calls itself for the operands, so that one call waits for another on each
node of a way down. An interpreter lets only so many calls wait. `levels` are the ones that are left
when an evaluation begins, and with too few of them it founders, which is a breakdown.

The nesting of an expression is bounded, so the parser gets by with a fixed number of levels. But a
chain of operators is no nesting, and its tree is as high as it has operators.
-/

namespace Reckoner

namespace Expr

/-- The number of nodes on the longest way down. -/
def height : Expr → Nat
  | number _ => 1
  | signed _ operand => operand.height + 1
  | binary _ left right => max left.height right.height + 1

/-- The exact evaluation of a tree, unless it founders. The right operand is not evaluated if the left
one is refused. -/
def exactWithin : Nat → Expr → Option (Except Refusal Int)
  | 0, _ => none
  | _ + 1, number n => some n.exact
  | levels + 1, signed sign operand =>
    match operand.exactWithin levels with
    | none => none
    | some (.error why) => some (.error why)
    | some (.ok z) => some (.ok (sign.exact z))
  | levels + 1, binary op left right =>
    match left.exactWithin levels with
    | none => none
    | some (.error why) => some (.error why)
    | some (.ok l) =>
      match right.exactWithin levels with
      | none => none
      | some (.error why) => some (.error why)
      | some (.ok r) => some (op.exact l r)

/-- The evaluation of a tree in floating-point numbers, unless it founders. -/
def roundedWithin : Nat → Expr → Option Binary64
  | 0, _ => none
  | _ + 1, number n => some (.ofNumeral n)
  | levels + 1, signed sign operand => (operand.roundedWithin levels).map sign.rounded
  | levels + 1, binary op left right =>
    match left.roundedWithin levels, right.roundedWithin levels with
    | some x, some y => some (op.rounded x y)
    | _, _ => none

end Expr

/-! ## Texts -/

/-- Whether the exact evaluation of a text founders. It is not begun if an operator leads out of the
integers. -/
def exactFounders (levels : Nat) (text : List Char) : Bool :=
  match Expr.parse (Text.squeeze text) with
  | .error _ => false
  | .ok tree => !tree.nodes.any Expr.isInexactOperator && (tree.exactWithin levels).isNone

def roundedFounders (levels : Nat) (text : List Char) : Bool :=
  match Expr.parse text with
  | .error _ => false
  | .ok tree => (tree.roundedWithin levels).isNone

def Fault.tooDeep : Fault :=
  ⟨.recursion, ["maximum recursion depth exceeded"]⟩

/-- The calculator's own evaluators on an interpreter that lets them call themselves only so often. -/
def Evaluators.within (levels : Nat) : Evaluators where
  exact text := if exactFounders levels text then return .error .tooDeep else own.exact text
  rounded text := if roundedFounders levels text then return .error .tooDeep else own.rounded text

end Reckoner
