import Reckoner.Proofs.Evaluation.Exact
import Reckoner.Proofs.Expr.Numerals
import Reckoner.Proofs.Text.Decimal

/-!
# Exact evaluation with exceptions

Exact evaluation once more, with every operation in it that can raise an exception: looking up an
operator by its spelling, reading a literal, the operations on integers, and writing a large
integer. The handler at the end takes some exceptions and lets others through.

No exception gets through, and the evaluator is the calculator's own, `attemptExactResult_eq`. On
the way it turns out that operators can be looked up before or after the operands are computed,
`Expr.attemptExact_eq`.
-/

namespace Reckoner

open Text (squeeze)

-- Powers are those of the core library, whatever else is in scope.
attribute [local instance (high)] instPowNat

/-! ## Exceptions -/

/-- What an operation of an evaluator can raise. -/
inductive Raised where
  | notExact
  | malformed (error : SyntaxError)
  | zeroDivision
  | overflow
  | value
  | lookup
  deriving DecidableEq, Repr

/-- What an operation gives, or what it raises. -/
abbrev Attempt (α : Type) := Except Raised α

namespace Raised

/-- The name of an exception in log records. -/
def label : Raised → String
  | notExact => "_NotExact"
  | malformed _ => "ExpressionSyntaxError"
  | zeroDivision => "ZeroDivisionError"
  | overflow => "OverflowError"
  | value => "ValueError"
  | lookup => "KeyError"

/-- Whether a handler of arithmetic exceptions takes it. -/
def isArithmetic : Raised → Bool
  | zeroDivision | overflow => true
  | _ => false

/-- Whether a handler of wrong values takes it; a malformed text is a wrong value. -/
def isWrongValue : Raised → Bool
  | value | malformed _ => true
  | _ => false

/-- Whether the handler of exact evaluation takes it. -/
def isHandled (raised : Raised) : Bool :=
  raised == notExact || raised.isArithmetic || raised.isWrongValue

end Raised

/-- What is raised for a refusal. -/
def Refusal.raised : Refusal → Raised
  | malformed error => .malformed error
  | inexactOperator | decimalLiteral | negativeExponent | widePower => .notExact
  | zeroDivisor => .zeroDivision
  | tooManyDigits => .value

theorem Refusal.label_raised (why : Refusal) : why.raised.label = why.label := by
  cases why <;> rfl

theorem Refusal.isHandled_raised (why : Refusal) : why.raised.isHandled = true := by
  cases why <;> rfl

/-- What is there; it is raised that nothing is. -/
def orRaise {α : Type} (raised : Raised) : Option α → Attempt α
  | some a => .ok a
  | none => .error raised

theorem ok_bind {α β : Type} (a : α) (next : α → Attempt β) : (Except.ok a >>= next) = next a :=
  rfl

/-! ## Exact evaluation -/

/-- The signs by their spelling. -/
def signTable {α : Type} (negate : α → α) : List (Char × (α → α)) :=
  [('+', id), ('-', negate)]

/-- The operators on integers by their spelling. -/
def integerTable : List (List Char × (Int → Int → Attempt Int)) :=
  [(['+'], fun a b => .ok (a + b)),
    (['-'], fun a b => .ok (a - b)),
    (['*'], fun a b => .ok (a * b)),
    (['%'], fun a b => (truncatedRemainder a b).mapError Refusal.raised),
    (['*', '*'], fun a b => (integerPower a b).mapError Refusal.raised)]

/-- The exact value of a tree. An operator that is not in the table is looked for before its
operands are computed. -/
def Expr.attemptExact : Expr → Attempt Int
  | number n =>
    if n.isDecimal then .error .notExact else orRaise .value (Text.typedInteger? n.chars)
  | signed sign operand => do
    let apply ← orRaise .lookup ((signTable Neg.neg).lookup sign.char)
    let a ← operand.attemptExact
    return apply a
  | binary op left right => do
    let apply ← orRaise .notExact (integerTable.lookup op.chars)
    let a ← left.attemptExact
    let b ← right.attemptExact
    apply a b

/-- The digits of an integer, unless they are too many. -/
def attemptDigits (z : Int) : Attempt String :=
  if Text.Digits.maxRun < (Text.Digits.ofNat z.natAbs).length then .error .value
  else .ok (String.ofList (Text.Digits.textInt z))

/-- The result of an integer. -/
def attemptOfExact (z : Int) : Attempt Value :=
  if isSafe z then .ok (.integer z) else (attemptDigits z).map .text

/-- The exact value of a text, with nothing handled. An operator that leads out of the integers
raises nothing. -/
def attemptExactValue (text : List Char) : Attempt (Option Value) := do
  let tree ← (Expr.parse (squeeze text)).mapError .malformed
  if tree.nodes.any Expr.isInexactOperator then return none
  else
    let z ← tree.attemptExact
    let value ← attemptOfExact z
    return some value

/-- The exact value of a text, with the handler. -/
def attemptExactResult (text : List Char) : Logged (Attempt (Option Value)) := do
  match attemptExactValue text with
  | .ok value? => return .ok value?
  | .error raised =>
    if raised.isHandled then
      Logged.tell (noResult "exact.no_result" text raised.label)
      return .ok none
    else return .error raised

/-! ## What is raised in exact evaluation -/

/-- Every sign is in the table. -/
theorem lookup_signTable {α : Type} (negate : α → α) (sign : Sign) :
    (signTable negate).lookup sign.char =
      some (match sign with
        | .plus => id
        | .minus => negate) := by
  cases sign <;> rfl

/-- The operators in the table are those that do not lead out of the integers. -/
theorem lookup_integerTable (o : Op) :
    integerTable.lookup o.chars =
      if o = .div ∨ o = .hat then none
      else some fun a b => (o.exact a b).mapError Refusal.raised := by
  cases o <;> rfl

/-- A literal is read as long as it has no point and not too many digits. -/
theorem attemptExact_number (n : Numeral) :
    (Expr.number n).attemptExact = n.exact.mapError Refusal.raised := by
  cases n with
  | mixed _ _ | fraction _ => rfl
  | integer whole =>
    rw [Expr.attemptExact, Text.typedInteger?_chars]
    simp only [Numeral.isDecimal, Numeral.exact, Bool.false_eq_true, if_false]
    split <;> rfl

theorem Numeral.exact_ne_inexactOperator (n : Numeral) : n.exact ≠ .error .inexactOperator := by
  cases n with
  | mixed _ _ | fraction _ => simp [Numeral.exact]
  | integer whole =>
    simp only [Numeral.exact]
    split <;> simp

theorem Op.exact_ne_inexactOperator {o : Op} (known : ¬ (o = .div ∨ o = .hat)) (a b : Int) :
    o.exact a b ≠ .error .inexactOperator := by
  cases o with
  | add | sub | mul => simp [Op.exact]
  | div | hat => simp at known
  | rem =>
    simp only [Op.exact, truncatedRemainder]
    split <;> simp
  | pow =>
    simp only [Op.exact, integerPower]
    repeat' split
    all_goals simp

namespace Expr

/-- No operator of the tree leads out of the integers. -/
def HasExactOperators (tree : Expr) : Prop :=
  ∀ node ∈ tree.nodes, node.isInexactOperator = false

theorem HasExactOperators.signed {sign : Sign} {operand : Expr}
    (exact : (signed sign operand).HasExactOperators) : operand.HasExactOperators :=
  fun node member => exact node (mem_nodes_signed.2 (.inr member))

theorem HasExactOperators.binary {o : Op} {left right : Expr}
    (exact : (binary o left right).HasExactOperators) :
    ¬ (o = .div ∨ o = .hat) ∧ left.HasExactOperators ∧ right.HasExactOperators := by
  refine ⟨?_, ?_, ?_⟩
  · have node := exact _ (mem_nodes_self _)
    rintro (rfl | rfl) <;> cases node
  · exact fun node member => exact node (mem_nodes_binary.2 (.inr (.inl member)))
  · exact fun node member => exact node (mem_nodes_binary.2 (.inr (.inr member)))

/-- If all operators are in the table, what is raised is what the evaluator refuses. -/
theorem attemptExact_eq {tree : Expr} (exact : tree.HasExactOperators) :
    tree.attemptExact = tree.exact.mapError Refusal.raised := by
  induction tree with
  | number n => exact attemptExact_number n
  | signed sign operand ih =>
    rw [attemptExact, Expr.exact, lookup_signTable, ih exact.signed]
    cases operand.exact with
    | error why => rfl
    | ok a => cases sign <;> rfl
  | binary o left right ihl ihr =>
    obtain ⟨known, exactLeft, exactRight⟩ := exact.binary
    rw [attemptExact, Expr.exact, lookup_integerTable, if_neg known, ihl exactLeft, ihr exactRight]
    cases left.exact with
    | error why => rfl
    | ok a =>
      cases right.exact with
      | error why => rfl
      | ok b => rfl

theorem exact_ne_inexactOperator {tree : Expr} (exact : tree.HasExactOperators) :
    tree.exact ≠ .error .inexactOperator := by
  induction tree with
  | number n => exact n.exact_ne_inexactOperator
  | signed sign operand ih =>
    rw [Expr.exact]
    split
    · rename_i why refused
      have other := ih exact.signed
      rwa [refused] at other
    · simp
  | binary o left right ihl ihr =>
    obtain ⟨known, exactLeft, exactRight⟩ := exact.binary
    rw [Expr.exact]
    split
    · rename_i why refused
      have other := ihl exactLeft
      rwa [refused] at other
    · split
      · rename_i why refused
        have other := ihr exactRight
        rwa [refused] at other
      · exact Op.exact_ne_inexactOperator known _ _

end Expr

/-- The digits are counted before they are written. -/
theorem attemptOfExact_eq (z : Int) :
    attemptOfExact z = (Value.ofExact z).mapError Refusal.raised := by
  have short : _ ↔ z.natAbs < 10 ^ Text.Digits.maxRun :=
    Text.Digits.length_ofNat_le_iff (by decide)
  unfold attemptOfExact attemptDigits Value.ofExact
  by_cases safe : isSafe z = true
  · rw [if_pos safe, if_pos safe]
    rfl
  · rw [if_neg safe, if_neg safe]
    by_cases long : 10 ^ Text.Digits.maxRun ≤ z.natAbs
    · rw [if_pos (Nat.not_le.1 (mt short.1 (Nat.not_lt.2 long))), if_pos long]
      rfl
    · rw [if_neg (Nat.not_lt.2 (short.2 (Nat.not_le.1 long))), if_neg long]
      rfl

theorem Value.ofExact_ne_inexactOperator (z : Int) : ofExact z ≠ .error .inexactOperator := by
  unfold ofExact
  repeat' split
  all_goals simp

namespace Expr

variable {tree : Expr} (exact : tree.HasExactOperators)

include exact

theorem attemptExact_bind :
    (tree.attemptExact >>= attemptOfExact) = tree.exactValue.mapError Refusal.raised := by
  rw [attemptExact_eq exact, exactValue]
  cases tree.exact with
  | error why => rfl
  | ok z => exact attemptOfExact_eq z

theorem exactValue_ne_inexactOperator : tree.exactValue ≠ .error .inexactOperator := by
  unfold exactValue
  split
  · rename_i why refused
    rintro ⟨⟩
    exact exact_ne_inexactOperator exact refused
  · exact Value.ofExact_ne_inexactOperator _

end Expr

/-- What an exact value or a refusal comes to, with nothing handled. -/
def attemptOf : Except Refusal Value → Attempt (Option Value)
  | .ok value => .ok (some value)
  | .error .inexactOperator => .ok none
  | .error why => .error why.raised

theorem attemptOf_error {why : Refusal} (other : why ≠ .inexactOperator) :
    attemptOf (.error why) = .error why.raised := by
  cases why with
  | inexactOperator => exact absurd rfl other
  | malformed _ | decimalLiteral | negativeExponent | widePower | zeroDivisor | tooManyDigits => rfl

theorem attemptExactValue_eq (text : List Char) :
    attemptExactValue text = attemptOf (exactValue text) := by
  unfold attemptExactValue exactValue
  cases Expr.parse (squeeze text) with
  | error error => rfl
  | ok tree =>
    simp only [Except.mapError, ok_bind]
    by_cases found : tree.nodes.any Expr.isInexactOperator = true
    · rw [if_pos found, if_pos found]
      rfl
    · have exact : tree.HasExactOperators := by
        simpa [Expr.HasExactOperators] using found
      rw [if_neg found, if_neg found, ← bind_assoc, Expr.attemptExact_bind exact]
      show _ = attemptOf tree.exactValue
      cases refused : tree.exactValue with
      | ok value => rfl
      | error why =>
        have other : why ≠ .inexactOperator := by
          rintro rfl
          exact Expr.exactValue_ne_inexactOperator exact refused
        rw [attemptOf_error other]
        rfl

/-- Whatever is raised in exact evaluation, it is handled and ends in a text without a value, with
the same record. -/
theorem attemptExactResult_eq (text : List Char) :
    attemptExactResult text = ⟨.ok (exactResult text).result, (exactResult text).records⟩ := by
  unfold attemptExactResult exactResult
  rw [attemptExactValue_eq]
  cases exactValue text with
  | ok value => rfl
  | error why =>
    by_cases leadsOut : why = .inexactOperator
    · subst leadsOut
      rfl
    · simp only [attemptOf_error leadsOut, why.isHandled_raised, why.label_raised, if_true]
      rfl

end Reckoner
