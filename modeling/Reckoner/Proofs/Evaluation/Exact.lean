import Reckoner.Calculator
import Reckoner.Proofs.Expr.Lexing
import Reckoner.Proofs.Expr.Parsing

/-!
# What exact evaluation can do

`Expr.exact` is opened here once and for all: there is one lemma for each kind of node, and whatever
else is known of a tree with an exact value comes from them. Which nodes a tree has is said by kinds
of nodes as well.

A tree with an exact value has no numeral with a point and no operator that leads out of the
integers, so neither a point nor a slash nor a hat is written in it.
-/

namespace Reckoner

open Text (squeeze)

namespace Expr

/-! ## Nodes -/

section Members

variable {node operand left right : Expr} {numeral : Numeral} {sign : Sign} {o : Op}

@[simp] theorem mem_nodes_number : node ∈ (number numeral).nodes ↔ node = number numeral := by
  rw [nodes_eq_preorder]
  exact List.mem_singleton

@[simp] theorem mem_nodes_signed :
    node ∈ (signed sign operand).nodes ↔ node = signed sign operand ∨ node ∈ operand.nodes := by
  rw [nodes_eq_preorder, nodes_eq_preorder]
  exact List.mem_cons

@[simp] theorem mem_nodes_binary :
    node ∈ (binary o left right).nodes ↔
      node = binary o left right ∨ node ∈ left.nodes ∨ node ∈ right.nodes := by
  rw [nodes_eq_preorder, nodes_eq_preorder, nodes_eq_preorder]
  simp [preorder]

end Members

theorem mem_nodes_self (tree : Expr) : tree ∈ tree.nodes := by
  cases tree <;> simp

/-! ## Values of nodes -/

theorem exact_signed_eq_ok {sign : Sign} {operand : Expr} {z : Int} :
    (signed sign operand).exact = .ok z ↔ ∃ a, operand.exact = .ok a ∧ z = sign.exact a := by
  cases h : operand.exact with
  | error why => simp [exact, h]
  | ok a => simp [exact, h, eq_comm]

theorem exact_binary_eq_ok {o : Op} {left right : Expr} {z : Int} :
    (binary o left right).exact = .ok z ↔
      ∃ a b, left.exact = .ok a ∧ right.exact = .ok b ∧ o.exact a b = .ok z := by
  cases h : left.exact with
  | error why => simp [exact, h]
  | ok a =>
    cases h' : right.exact with
    | error why => simp [exact, h, h']
    | ok b => simp [exact, h, h']

/-! ## What an exact tree lacks -/

theorem inexactOperator_of_exact {o : Op} {a b z : Int} (value : o.exact a b = .ok z) :
    o ≠ .div ∧ o ≠ .hat := by
  refine ⟨?_, ?_⟩ <;> rintro rfl <;> cases value

/-- The characters that an exact tree is written without. -/
def leadsOut (c : Char) : Bool :=
  c == '.' || c == '/' || c == '^'

theorem not_leadsOut_chars_op {o : Op} (exact : o ≠ .div ∧ o ≠ .hat) {c : Char}
    (member : c ∈ (Lexeme.op o).chars) : leadsOut c = false := by
  obtain ⟨notDiv, notHat⟩ := exact
  cases o with
  | div => exact absurd rfl notDiv
  | hat => exact absurd rfl notHat
  | add | sub | mul | rem =>
    obtain rfl := List.mem_singleton.1 member
    rfl
  | pow =>
    have same : c = '*' := by simpa [Lexeme.chars, Op.chars] using member
    subst same
    rfl

theorem not_leadsOut_of_exact {tree : Expr} {z : Int} (value : tree.exact = .ok z)
    {lexeme : Lexeme} (written : lexeme ∈ tree.inorder) {c : Char} (member : c ∈ lexeme.chars) :
    leadsOut c = false := by
  induction tree generalizing z with
  | number numeral =>
    obtain rfl := List.mem_singleton.1 written
    cases numeral with
    | integer whole =>
      have digits : ∀ d : Text.Digit, leadsOut d.toChar = false := by decide
      obtain ⟨d, _, rfl⟩ := List.mem_map.1 member
      exact digits d
    | mixed _ _ | fraction _ => cases value
  | signed sign operand ih =>
    obtain ⟨a, valueOperand, rfl⟩ := exact_signed_eq_ok.1 value
    rcases List.mem_cons.1 written with rfl | written
    · exact not_leadsOut_chars_op (by cases sign <;> decide) member
    · exact ih valueOperand written
  | binary o left right ihl ihr =>
    obtain ⟨a, b, valueLeft, valueRight, valueOp⟩ := exact_binary_eq_ok.1 value
    rcases List.mem_append.1 written with written | written
    · exact ihl valueLeft written
    rcases List.mem_cons.1 written with rfl | written
    · exact not_leadsOut_chars_op (inexactOperator_of_exact valueOp) member
    · exact ihr valueRight written

/-- Looking for operators that lead out of the integers finds none in a tree with a value. -/
theorem any_isInexactOperator_of_exact {tree : Expr} {z : Int} (value : tree.exact = .ok z) :
    tree.nodes.any isInexactOperator = false := by
  rw [nodes_eq_preorder]
  induction tree generalizing z with
  | number numeral => rfl
  | signed sign operand ih =>
    obtain ⟨a, valueOperand, rfl⟩ := exact_signed_eq_ok.1 value
    exact ih valueOperand
  | binary o left right ihl ihr =>
    obtain ⟨a, b, valueLeft, valueRight, valueOp⟩ := exact_binary_eq_ok.1 value
    obtain ⟨notDiv, notHat⟩ := inexactOperator_of_exact valueOp
    have node : isInexactOperator (binary o left right) = false := by
      cases o <;> first | rfl | contradiction
    simp [preorder, node, ihl valueLeft, ihr valueRight]

end Expr

/-! ## Texts -/

/-- The exact value of a tree as a result, or why there is none. -/
def Expr.exactValue (tree : Expr) : Except Refusal Value :=
  match tree.exact with
  | .error why => .error why
  | .ok z => Value.ofExact z

theorem exactValue_eq_ok {text : List Char} {value : Value} :
    exactValue text = .ok value ↔
      ∃ tree, Expr.parse (squeeze text) = .ok tree ∧ tree.exactValue = .ok value := by
  unfold exactValue
  cases Expr.parse (squeeze text) with
  | error why => simp
  | ok tree =>
    cases exact : tree.exact with
    | error why =>
      -- Whether the look finds an operator decides on the reason, but there is no value either way.
      simp only [exact, Expr.exactValue]
      split <;> simp_all
    | ok z => simp [exact, Expr.exactValue, Expr.any_isInexactOperator_of_exact exact]

theorem toOption_eq_some {ε α : Type} {outcome : Except ε α} {a : α} :
    outcome.toOption = some a ↔ outcome = .ok a := by
  cases outcome <;> simp [Except.toOption]

theorem exactResult_result (text : List Char) :
    (exactResult text).result = (exactValue text).toOption := by
  unfold exactResult
  split <;> simp_all [Except.toOption]

theorem roundedResult_result (text : List Char) :
    (roundedResult text).result = (roundedValue text).toOption := by
  unfold roundedResult
  split <;> simp_all [Except.toOption]

end Reckoner
