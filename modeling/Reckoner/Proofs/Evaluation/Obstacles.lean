import Reckoner.Proofs.Evaluation.Integers
import Reckoner.Proofs.Text.Decimal

/-!
# Why a text has no exact value

An `Obstacle` is a node that has no value in exact evaluation: a literal that is not read, an
operator that leads out of the integers, a remainder by zero, or a power that is refused. What the
operands of the node are is said in the arithmetic of the integers, where nothing is refused.

A tree has an exact value exactly if no node of it is an obstacle: the first obstacle stops
evaluation, `exists_obstacle_of_error`, and no obstacle is passed by,
`Obstacle.not_mem_of_exact`. Together with the digits of the value this tells what a text results
in, `exactResult_denotes_or_obstructed`.
-/

namespace Reckoner

open Text (squeeze IsDecimal)

-- Powers are those of the core library, whatever else is in scope.
attribute [local instance (high)] instPowNat

/-! ## Results -/

/-- The result that stands for an integer: the integer if it is safe, and otherwise its canonical
decimal. -/
inductive Value.StandsFor : Value → Int → Prop where
  | integer {z} : z.natAbs ≤ maxSafeInteger → StandsFor (.integer z) z
  | digits {s z} : maxSafeInteger < z.natAbs → IsDecimal s.toList z → StandsFor (.text s) z

/-- The integer has no more digits than are written. -/
def IsWritable (z : Int) : Prop :=
  (Text.Digits.ofNat z.natAbs).length ≤ Text.Digits.maxRun

theorem isWritable_iff {z : Int} : IsWritable z ↔ z.natAbs < 10 ^ Text.Digits.maxRun :=
  Text.Digits.length_ofNat_le_iff (by decide)

theorem Value.standsFor_iff {value : Value} {z : Int} :
    value.StandsFor z ↔ value = .ofInteger z := by
  unfold ofInteger
  constructor
  · intro stands
    cases stands with
    | integer safe => simp [isSafe, safe]
    | digits large decimal =>
      rw [Text.isDecimal_iff] at decimal
      simp [isSafe, Nat.not_le.2 large, ← decimal]
  · rintro rfl
    split
    · rename_i safe
      exact .integer (of_decide_eq_true safe)
    · rename_i large
      refine .digits (Nat.not_le.1 fun safe => large (decide_eq_true safe)) ?_
      rw [String.toList_ofList, Text.isDecimal_iff]

theorem isWritable_of_isSafe {z : Int} (safe : isSafe z = true) : IsWritable z := by
  rw [isWritable_iff]
  calc z.natAbs
    _ ≤ maxSafeInteger := of_decide_eq_true safe
    _ < 10 ^ 16 := by decide
    _ ≤ 10 ^ Text.Digits.maxRun := Nat.pow_le_pow_right (by decide) (by decide)

theorem Value.ofExact_eq_ok {value : Value} {z : Int} :
    ofExact z = .ok value ↔ IsWritable z ∧ value.StandsFor z := by
  rw [standsFor_iff]
  by_cases writable : IsWritable z
  · rw [ofExact_of_lt (isWritable_iff.1 writable)]
    simp [writable, eq_comm]
  · have large : ¬ isSafe z = true := fun safe => writable (isWritable_of_isSafe safe)
    have long := Nat.not_lt.1 (mt isWritable_iff.2 writable)
    simp [ofExact, large, long, writable]

/-! ## Obstacles -/

/-- The value of a tree in the arithmetic of the integers, however wide its powers are. -/
abbrev Means : Expr → Int → Prop :=
  Denotes fun _ _ => True

/-- A node that keeps exact evaluation from going on. -/
inductive Obstacle : Expr → Prop where
  | point {numeral} : numeral.isDecimal = true → Obstacle (.number numeral)
  | longLiteral {whole : DigitRun} : Text.Digits.maxRun < whole.toList.length →
      Obstacle (.number (.integer whole))
  | quotient {left right} : Obstacle (.binary .div left right)
  | hat {left right} : Obstacle (.binary .hat left right)
  | zeroDivisor {left right} : Means right 0 → Obstacle (.binary .rem left right)
  | negativeExponent {left right b} : Means right b → b < 0 → Obstacle (.binary .pow left right)
  | widePower {left right a} {e : Nat} : Means left a → Means right e → e ≠ 0 →
      maxPowerBits < bitLength a.natAbs * e → Obstacle (.binary .pow left right)

theorem means_of_exact {tree : Expr} {z : Int} (value : tree.exact = .ok z) : Means tree z :=
  (denotes_of_exact value).1.mono fun _ _ _ => trivial

theorem obstacle_of_op_error {o : Op} {left right : Expr} {a b : Int} {why : Refusal}
    (valueLeft : left.exact = .ok a) (valueRight : right.exact = .ok b)
    (refused : o.exact a b = .error why) : Obstacle (.binary o left right) := by
  cases o with
  | add | sub | mul => cases refused
  | div => exact .quotient
  | hat => exact .hat
  | rem =>
    simp only [Op.exact, truncatedRemainder] at refused
    split at refused
    · rename_i zero
      exact .zeroDivisor (zero ▸ means_of_exact valueRight)
    · cases refused
  | pow =>
    cases b with
    | negSucc n => exact .negativeExponent (means_of_exact valueRight) (Int.negSucc_lt_zero n)
    | ofNat e =>
      have beyond : ¬ WithinEstimate a e := by
        intro within
        have value := integerPower_natCast.2 ⟨within, rfl⟩
        rw [Op.exact, Int.ofNat_eq_natCast, value] at refused
        cases refused
      obtain ⟨nonzero, wide⟩ := not_or.1 beyond
      exact .widePower (means_of_exact valueLeft) (means_of_exact valueRight) nonzero
        (Nat.not_le.1 wide)

/-- Evaluation stops at an obstacle only. -/
theorem exists_obstacle_of_error {tree : Expr} {why : Refusal} (refused : tree.exact = .error why) :
    ∃ node ∈ tree.nodes, Obstacle node := by
  induction tree generalizing why with
  | number numeral =>
    refine ⟨_, Expr.mem_nodes_self _, ?_⟩
    cases numeral with
    | mixed _ _ | fraction _ => exact .point rfl
    | integer whole =>
      simp only [Expr.exact, Numeral.exact] at refused
      split at refused
      · rename_i long
        exact .longLiteral long
      · cases refused
  | signed sign operand ih =>
    cases valueOperand : operand.exact with
    | error why =>
      obtain ⟨node, member, obstacle⟩ := ih valueOperand
      exact ⟨node, Expr.mem_nodes_signed.2 (.inr member), obstacle⟩
    | ok a =>
      rw [Expr.exact_signed_eq_ok.2 ⟨a, valueOperand, rfl⟩] at refused
      cases refused
  | binary o left right ihl ihr =>
    cases valueLeft : left.exact with
    | error why =>
      obtain ⟨node, member, obstacle⟩ := ihl valueLeft
      exact ⟨node, Expr.mem_nodes_binary.2 (.inr (.inl member)), obstacle⟩
    | ok a =>
      cases valueRight : right.exact with
      | error why =>
        obtain ⟨node, member, obstacle⟩ := ihr valueRight
        exact ⟨node, Expr.mem_nodes_binary.2 (.inr (.inr member)), obstacle⟩
      | ok b =>
        simp only [Expr.exact, valueLeft, valueRight] at refused
        exact ⟨_, Expr.mem_nodes_self _, obstacle_of_op_error valueLeft valueRight refused⟩

/-- The nodes of a tree with an exact value have one. -/
theorem exact_of_mem_nodes {tree node : Expr} {z : Int} (value : tree.exact = .ok z)
    (member : node ∈ tree.nodes) : ∃ a, node.exact = .ok a := by
  induction tree generalizing z with
  | number numeral =>
    obtain rfl := Expr.mem_nodes_number.1 member
    exact ⟨z, value⟩
  | signed sign operand ih =>
    rcases Expr.mem_nodes_signed.1 member with rfl | member
    · exact ⟨z, value⟩
    · obtain ⟨a, valueOperand, rfl⟩ := Expr.exact_signed_eq_ok.1 value
      exact ih valueOperand member
  | binary o left right ihl ihr =>
    obtain ⟨a, b, valueLeft, valueRight, valueOp⟩ := Expr.exact_binary_eq_ok.1 value
    rcases Expr.mem_nodes_binary.1 member with rfl | member | member
    · exact ⟨z, value⟩
    · exact ihl valueLeft member
    · exact ihr valueRight member

/-- An obstacle has no exact value. -/
theorem Obstacle.exact_ne_ok {node : Expr} (obstacle : Obstacle node) (z : Int) :
    node.exact ≠ .ok z := by
  intro value
  cases obstacle with
  | @point numeral decimal =>
    cases numeral with
    | integer _ => cases decimal
    | mixed _ _ | fraction _ => cases value
  | longLiteral long =>
    have short := Expr.shortLiterals_integer.1 (denotes_of_exact value).2
    exact absurd long (Nat.not_lt.2 short)
  | quotient | hat =>
    obtain ⟨_, _, _, _, valueOp⟩ := Expr.exact_binary_eq_ok.1 value
    cases valueOp
  | zeroDivisor zero =>
    obtain ⟨a, b, _, valueRight, valueOp⟩ := Expr.exact_binary_eq_ok.1 value
    obtain rfl := (means_of_exact valueRight).unique zero
    exact (isRemainder_iff.1 (truncatedRemainder_eq_ok.1 valueOp)).1 rfl
  | negativeExponent exponent negative =>
    obtain ⟨a, b, _, valueRight, valueOp⟩ := Expr.exact_binary_eq_ok.1 value
    obtain ⟨e, rfl, _⟩ := integerPower_eq_ok.1 valueOp
    obtain rfl := (means_of_exact valueRight).unique exponent
    omega
  | widePower base exponent nonzero wide =>
    obtain ⟨a, b, valueLeft, valueRight, valueOp⟩ := Expr.exact_binary_eq_ok.1 value
    obtain ⟨e, rfl, within, _⟩ := integerPower_eq_ok.1 valueOp
    obtain rfl := (means_of_exact valueLeft).unique base
    obtain rfl := Int.natCast_inj.1 ((means_of_exact valueRight).unique exponent)
    exact within.elim nonzero (Nat.not_le.2 wide)

/-- Evaluation passes no obstacle by. -/
theorem Obstacle.not_mem_of_exact {tree node : Expr} {z : Int} (value : tree.exact = .ok z)
    (obstacle : Obstacle node) : node ∉ tree.nodes := by
  intro member
  obtain ⟨a, valueNode⟩ := exact_of_mem_nodes value member
  exact obstacle.exact_ne_ok a valueNode

/-! ## Main result -/

theorem exactResult_eq_some {text : List Char} {value : Value} :
    (exactResult text).result = some value ↔
      ∃ tree z, Expr.parse (squeeze text) = .ok tree ∧ tree.exact = .ok z ∧ IsWritable z ∧
        value.StandsFor z := by
  rw [exactResult_result, toOption_eq_some, exactValue_eq_ok]
  constructor
  · rintro ⟨tree, parsed, valued⟩
    unfold Expr.exactValue at valued
    split at valued
    · cases valued
    · rename_i z exact
      exact ⟨tree, z, parsed, exact, Value.ofExact_eq_ok.1 valued⟩
  · rintro ⟨tree, z, parsed, exact, stands⟩
    refine ⟨tree, parsed, ?_⟩
    rw [Expr.exactValue, exact]
    exact Value.ofExact_eq_ok.2 stands

/-- What exact evaluation makes of a text. It gives the integer that the tree of the text denotes,
provided that all powers are within the estimate and that the digits of literals and value are not
too many. It gives nothing exactly if the text without its blanks has no tree, a node of the tree is
an obstacle, or the value has too many digits. -/
theorem exactResult_denotes_or_obstructed (text : List Char) :
    (∀ value, (exactResult text).result = some value ↔
      ∃ tree z, Expr.parse (squeeze text) = .ok tree ∧ Denotes WithinEstimate tree z ∧
        tree.ShortLiterals ∧ IsWritable z ∧ value.StandsFor z) ∧
    ((exactResult text).result = none ↔
      (∃ error, Expr.parse (squeeze text) = .error error) ∨
      ∃ tree, Expr.parse (squeeze text) = .ok tree ∧
        ((∃ node ∈ tree.nodes, Obstacle node) ∨ ∃ z, Means tree z ∧ ¬ IsWritable z)) := by
  constructor
  · intro value
    simp only [exactResult_eq_some, exact_eq_ok_iff_denotes, and_assoc]
  · constructor
    · intro none
      cases parsed : Expr.parse (squeeze text) with
      | error error => exact .inl ⟨error, rfl⟩
      | ok tree =>
        refine .inr ⟨tree, rfl, ?_⟩
        cases exact : tree.exact with
        | error why => exact .inl (exists_obstacle_of_error exact)
        | ok z =>
          refine .inr ⟨z, means_of_exact exact, ?_⟩
          intro writable
          have some := exactResult_eq_some.2
            ⟨tree, z, parsed, exact, writable, Value.standsFor_iff.2 rfl⟩
          rw [none] at some
          cases some
    · intro obstructed
      cases result : (exactResult text).result with
      | none => rfl
      | some value =>
        obtain ⟨tree, z, parsed, exact, writable, _⟩ := exactResult_eq_some.1 result
        rcases obstructed with ⟨error, refused⟩ | ⟨tree', parsed', obstructed⟩
        · rw [parsed] at refused
          cases refused
        · rw [parsed] at parsed'
          cases parsed'
          rcases obstructed with ⟨node, member, obstacle⟩ | ⟨z', means, long⟩
          · exact absurd member (obstacle.not_mem_of_exact exact)
          · obtain rfl := (means_of_exact exact).unique means
            exact absurd writable long

end Reckoner
