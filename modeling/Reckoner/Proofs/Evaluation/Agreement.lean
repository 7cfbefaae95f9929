import Reckoner.Proofs.Evaluation.Normal
import Reckoner.Proofs.Evaluation.Obstacles

/-!
# Where the evaluators agree

As long as no node of a tree leaves the safe integers, rounded evaluation follows exact evaluation
node by node: each floating-point number on the way is the exact integer, but for the sign of a
zero, `toInt?_rounded`. The sign is gone once the noise is removed, so that both evaluators give the
same integer, `evaluators_agree_on_safe_integers`.
-/

namespace Reckoner

open Text (squeeze)

-- Powers are those of the core library, whatever else is in scope.
attribute [local instance (high)] instPowNat

/-- Exact evaluation gives every node of the tree a safe integer. -/
def Expr.StaysSafe (tree : Expr) : Prop :=
  ∀ node ∈ tree.nodes, ∃ z, node.exact = .ok z ∧ isSafe z = true

namespace Expr.StaysSafe

theorem root {tree : Expr} (safe : tree.StaysSafe) : ∃ z, tree.exact = .ok z ∧ isSafe z = true :=
  safe tree tree.mem_nodes_self

theorem isSafe_of_exact {tree : Expr} {z : Int} (safe : tree.StaysSafe)
    (value : tree.exact = .ok z) : isSafe z = true := by
  obtain ⟨z', value', safeValue⟩ := safe.root
  rw [value] at value'
  cases value'
  exact safeValue

theorem signed {sign : Sign} {operand : Expr} (safe : (Expr.signed sign operand).StaysSafe) :
    operand.StaysSafe :=
  fun node member => safe node (mem_nodes_signed.2 (.inr member))

theorem binary {o : Op} {left right : Expr} (safe : (Expr.binary o left right).StaysSafe) :
    left.StaysSafe ∧ right.StaysSafe :=
  ⟨fun node member => safe node (mem_nodes_binary.2 (.inr (.inl member))),
    fun node member => safe node (mem_nodes_binary.2 (.inr (.inr member)))⟩

end Expr.StaysSafe

theorem lt_of_isSafe {z : Int} (safe : isSafe z = true) : z.natAbs < 2 ^ 53 :=
  Nat.lt_of_le_of_lt (of_decide_eq_true safe) (by decide)

/-- One operation: if the operands are the exact integers, so is the result, as long as it is
safe. -/
theorem toInt?_op_rounded {o : Op} {x y : Binary64} {a b z : Int} (left : x.toInt? = some a)
    (right : y.toInt? = some b) (safe : isSafe a = true) (valueOp : o.exact a b = .ok z)
    (safe' : isSafe z = true) : (o.rounded x y).toInt? = some z := by
  have small := lt_of_isSafe safe'
  cases o with
  | add => cases valueOp; exact Binary64.toInt?_add left right small
  | sub => cases valueOp; exact Binary64.toInt?_sub left right small
  | mul => cases valueOp; exact Binary64.toInt?_mul left right small
  | rem =>
    obtain ⟨nonzero, rfl⟩ := isRemainder_iff.1 (truncatedRemainder_eq_ok.1 valueOp)
    exact Binary64.toInt?_rem left right (lt_of_isSafe safe) nonzero
  | pow =>
    obtain ⟨e, rfl, _, rfl⟩ := integerPower_eq_ok.1 valueOp
    exact Binary64.toInt?_pow left right small
  | div | hat => cases valueOp

/-- Rounded evaluation follows exact evaluation. -/
theorem toInt?_rounded {tree : Expr} {z : Int} (safe : tree.StaysSafe)
    (value : tree.exact = .ok z) : tree.rounded.toInt? = some z := by
  have safeValue := safe.isSafe_of_exact value
  induction tree generalizing z with
  | number numeral =>
    cases numeral with
    | integer whole =>
      simp only [Expr.exact, Numeral.exact] at value
      split at value
      · cases value
      · cases value
        exact Binary64.toInt?_ofNumeral (lt_of_isSafe safeValue)
    | mixed _ _ | fraction _ => cases value
  | signed sign operand ih =>
    obtain ⟨a, valueOperand, rfl⟩ := Expr.exact_signed_eq_ok.1 value
    have follows := ih safe.signed valueOperand (safe.signed.isSafe_of_exact valueOperand)
    cases sign with
    | plus => exact follows
    | minus => exact Binary64.toInt?_neg follows
  | binary o left right ihl ihr =>
    obtain ⟨a, b, valueLeft, valueRight, valueOp⟩ := Expr.exact_binary_eq_ok.1 value
    obtain ⟨safeLeft, safeRight⟩ := safe.binary
    have safeA := safeLeft.isSafe_of_exact valueLeft
    have safeB := safeRight.isSafe_of_exact valueRight
    exact toInt?_op_rounded (ihl safeLeft valueLeft safeA) (ihr safeRight valueRight safeB) safeA
      valueOp safeValue

/-- On a text whose tree stays within the safe integers both evaluators give the integer that the
tree denotes. -/
theorem evaluators_agree_on_safe_integers {text : List Char} {tree : Expr}
    (parsed : Expr.parse text = .ok tree) (safe : tree.StaysSafe) :
    ∃ z, Means tree z ∧ (roundedResult text).result = some (.integer z) ∧
      (exactResult text).result = some (.integer z) := by
  obtain ⟨z, value, safeValue⟩ := safe.root
  refine ⟨z, means_of_exact value, ?_, ?_⟩
  · rw [roundedResult_of_parse parsed, normalize_of_toInt? (toInt?_rounded safe value),
      if_pos safeValue]
  · refine exactResult_eq_some.2 ⟨tree, z, Expr.parse_squeeze parsed, value,
      isWritable_of_isSafe safeValue, ?_⟩
    exact .integer (of_decide_eq_true safeValue)

/-- The floating-point number is a negative zero here. -/
theorem evaluators_agree_on_safe_integers_negative_zero :
    ∃ tree, Expr.parse "-0 ** 3 % 5".toList = .ok tree ∧ tree.StaysSafe ∧
      tree.rounded = .zero true ∧
      ∃ z, Means tree z ∧ (roundedResult "-0 ** 3 % 5".toList).result = some (.integer z) ∧
        (exactResult "-0 ** 3 % 5".toList).result = some (.integer z) := by
  have parsed : Expr.parse "-0 ** 3 % 5".toList = .ok (.binary .rem
      (.signed .minus (.binary .pow (.number (.integer ⟨0, []⟩)) (.number (.integer ⟨3, []⟩))))
      (.number (.integer ⟨5, []⟩))) := by decide +kernel
  have safe : Expr.StaysSafe (.binary .rem
      (.signed .minus (.binary .pow (.number (.integer ⟨0, []⟩)) (.number (.integer ⟨3, []⟩))))
      (.number (.integer ⟨5, []⟩))) := by
    intro node member
    simp only [Expr.mem_nodes_binary, Expr.mem_nodes_signed, Expr.mem_nodes_number] at member
    rcases member with rfl | (rfl | rfl | rfl | rfl) | rfl <;> exact ⟨_, rfl, by decide⟩
  exact ⟨_, parsed, safe, by decide +kernel, evaluators_agree_on_safe_integers parsed safe⟩

end Reckoner
