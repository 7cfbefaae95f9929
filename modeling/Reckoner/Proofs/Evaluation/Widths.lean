import Mathlib.Data.List.Flatten
import Reckoner.Proofs.Evaluation.Attempts.Exact
import Reckoner.Proofs.Evaluation.Denotation

/-!
# How wide integers get

Exact evaluation once more, with a note of every integer that it computes: the literals, the values
of signs and operators, and what a remainder and a power compute on the way to their values. What is
computed before an exception is noted too. Apart from the notes it is exact evaluation,
`Expr.work_outcome`.

The widths are bounded by the length of what is evaluated. A sum is one digit wider than the wider
operand, a product as wide as both operands together, and either operator takes at least one
character. A power has a bound of its own, so that nothing can be gained by nesting powers. From one
operator to the next this is `Op.work_narrow`, and over a tree `Expr.work_narrow`.
-/

namespace Reckoner

open Text (squeeze)

-- Powers are those of the core library, whatever else is in scope.
attribute [local instance (high)] instPowNat

/-! ## Notes -/

/-- What a computation comes to, and the integers computed on the way to it, in order. -/
structure Worked (α : Type) where
  outcome : Attempt α
  computed : List Int

namespace Worked

variable {α β : Type}

/-- An operation that computes no integer of its own. -/
def of (outcome : Attempt α) : Worked α :=
  ⟨outcome, []⟩

def compute (z : Int) : Worked Int :=
  ⟨.ok z, [z]⟩

/-- Nothing is computed behind an exception. -/
def andThen (first : Worked α) (next : α → Worked β) : Worked β :=
  match first.outcome with
  | .ok a => ⟨(next a).outcome, first.computed ++ (next a).computed⟩
  | .error raised => ⟨.error raised, first.computed⟩

instance : Monad Worked where
  pure a := of (.ok a)
  bind := andThen

@[simp] theorem outcome_of (outcome : Attempt α) : (of outcome).outcome = outcome := rfl

@[simp] theorem outcome_compute (z : Int) : (compute z).outcome = .ok z := rfl

@[simp] theorem outcome_pure (a : α) : (pure a : Worked α).outcome = .ok a := rfl

@[simp] theorem outcome_bind (first : Worked α) (next : α → Worked β) :
    (first >>= next).outcome = first.outcome >>= fun a => (next a).outcome := by
  show (first.andThen next).outcome = _
  unfold andThen
  cases first.outcome <;> rfl

end Worked

/-! ## Evaluation with notes -/

/-- The remainder of the magnitudes, with the sign of the dividend. -/
def workRemainder (dividend divisor : Int) : Worked Int := do
  let a ← .compute dividend.natAbs
  let b ← .compute divisor.natAbs
  if b = 0 then .of (.error .zeroDivision)
  else
    let remainder ← .compute (a % b)
    if dividend < 0 then .compute (-remainder) else return remainder

/-- A power, behind the test of its estimate. -/
def workPower (base exponent : Int) : Worked Int := do
  if exponent < 0 then .of (.error .notExact)
  else if exponent = 0 then .compute 1
  else
    let width ← .compute (bitLength base.natAbs)
    let estimate ← .compute (width * exponent)
    if maxPowerBits < estimate then .of (.error .notExact)
    else .compute (base ^ exponent.toNat)

/-- The operators of `integerTable`, with notes. -/
def workTable : List (List Char × (Int → Int → Worked Int)) :=
  [(['+'], fun a b => .compute (a + b)),
    (['-'], fun a b => .compute (a - b)),
    (['*'], fun a b => .compute (a * b)),
    (['%'], workRemainder),
    (['*', '*'], workPower)]

/-- `Expr.attemptExact` with notes. -/
def Expr.work : Expr → Worked Int
  | number n => do
    let z ← .of (number n).attemptExact
    .compute z
  | signed sign operand => do
    let apply ← .of (orRaise .lookup ((signTable Neg.neg).lookup sign.char))
    let a ← operand.work
    .compute (apply a)
  | binary op left right => do
    let apply ← .of (orRaise .notExact (workTable.lookup op.chars))
    let a ← left.work
    let b ← right.work
    apply a b

/-! ## Notes change nothing -/

theorem remainder_of_nonneg {a : Int} (nonneg : 0 ≤ a) (b : Int) :
    (a.natAbs : Int) % b.natAbs = a.tmod b := by
  rw [← Int.natCast_emod, ← Int.natAbs_tmod, Int.natAbs_of_nonneg (Int.tmod_nonneg b nonneg)]

theorem remainder_of_neg {a : Int} (negative : a < 0) (b : Int) :
    -((a.natAbs : Int) % b.natAbs) = a.tmod b := by
  have magnitude := remainder_of_nonneg (Int.neg_nonneg.2 (Int.le_of_lt negative)) b
  rw [← Int.natAbs_neg, magnitude, Int.neg_tmod, Int.neg_neg]

theorem outcome_workRemainder (a b : Int) :
    (workRemainder a b).outcome = (truncatedRemainder a b).mapError Refusal.raised := by
  have zero : (b.natAbs : Int) = 0 ↔ b = 0 := by omega
  simp only [workRemainder, truncatedRemainder, Worked.outcome_bind, Worked.outcome_compute,
    ok_bind, zero]
  split
  · rfl
  · simp only [Worked.outcome_bind, Worked.outcome_compute, ok_bind, Except.mapError]
    split
    · rename_i negative
      rw [remainder_of_neg negative]
      rfl
    · rename_i nonneg
      rw [remainder_of_nonneg (Int.not_lt.1 nonneg)]
      rfl

theorem outcome_workPower (a b : Int) :
    (workPower a b).outcome = (integerPower a b).mapError Refusal.raised := by
  unfold workPower integerPower
  by_cases negative : b < 0
  · rw [if_pos negative, if_pos negative]
    rfl
  rw [if_neg negative, if_neg negative]
  by_cases zero : b = 0
  · subst zero
    simp [Except.mapError]
  obtain ⟨e, rfl⟩ := Int.eq_ofNat_of_zero_le (Int.not_lt.1 negative)
  have estimate : (maxPowerBits : Int) < bitLength a.natAbs * e ↔
      maxPowerBits < bitLength a.natAbs * e := by
    rw [← Int.natCast_mul, Int.ofNat_lt]
  simp only [zero, if_false, Worked.outcome_bind, Worked.outcome_compute, ok_bind,
    Int.toNat_natCast, ne_eq, not_false_eq_true, true_and, and_true, estimate]
  split
  · rfl
  · split
    · rename_i base
      have positive : e ≠ 0 := by omega
      simp [base, Except.mapError, Int.zero_pow positive]
    · rfl

theorem lookup_workTable (o : Op) :
    (workTable.lookup o.chars).map (fun apply a b => (apply a b).outcome) =
      integerTable.lookup o.chars := by
  have remainder : (fun a b => (workRemainder a b).outcome) =
      fun a b => (truncatedRemainder a b).mapError Refusal.raised :=
    funext₂ outcome_workRemainder
  have power : (fun a b => (workPower a b).outcome) =
      fun a b => (integerPower a b).mapError Refusal.raised :=
    funext₂ outcome_workPower
  cases o with
  | add | sub | mul | div | hat => rfl
  | rem => exact congrArg some remainder
  | pow => exact congrArg some power

theorem Expr.work_outcome (tree : Expr) : tree.work.outcome = tree.attemptExact := by
  induction tree with
  | number n =>
    rw [work, Worked.outcome_bind, Worked.outcome_of]
    cases (number n).attemptExact <;> rfl
  | signed sign operand ih =>
    simp only [work, attemptExact, Worked.outcome_bind, Worked.outcome_of, ih]
    rfl
  | binary o left right ihl ihr =>
    simp only [work, attemptExact, Worked.outcome_bind, Worked.outcome_of, ihl, ihr,
      ← lookup_workTable]
    cases workTable.lookup o.chars <;> rfl

/-! ## Widths of values -/

theorem bitLength_mono {m n : Nat} (le : m ≤ n) : bitLength m ≤ bitLength n :=
  bitLength_le_iff.2 (Nat.lt_of_le_of_lt le (bitLength_le_iff.1 (Nat.le_refl _)))

theorem lt_two_pow_bitLength (n : Nat) : n < 2 ^ bitLength n :=
  bitLength_le_iff.1 (Nat.le_refl _)

theorem bitLength_le_self (n : Nat) : bitLength n ≤ n :=
  bitLength_le_iff.2 Nat.lt_two_pow_self

theorem bitLength_add_le (m n : Nat) : bitLength (m + n) ≤ max (bitLength m) (bitLength n) + 1 := by
  rw [bitLength_le_iff, Nat.pow_succ, Nat.mul_two]
  have left : 2 ^ bitLength m ≤ 2 ^ max (bitLength m) (bitLength n) :=
    Nat.pow_le_pow_right (by decide) (Nat.le_max_left ..)
  have right : 2 ^ bitLength n ≤ 2 ^ max (bitLength m) (bitLength n) :=
    Nat.pow_le_pow_right (by decide) (Nat.le_max_right ..)
  have := lt_two_pow_bitLength m
  have := lt_two_pow_bitLength n
  omega

theorem bitLength_mul_le (m n : Nat) : bitLength (m * n) ≤ bitLength m + bitLength n := by
  rw [bitLength_le_iff, Nat.pow_add]
  exact Nat.mul_lt_mul'' (lt_two_pow_bitLength m) (lt_two_pow_bitLength n)

/-- A digit takes at most four binary digits. -/
theorem bitLength_value_le (ds : List Text.Digit) :
    bitLength (Text.Digits.value ds) ≤ 4 * ds.length := by
  rw [bitLength_le_iff, Nat.pow_mul]
  exact Nat.lt_of_lt_of_le (Text.Digits.value_lt ds) (Nat.pow_le_pow_left (by decide) _)

theorem bitLength_of_integerPower {base exponent power : Int}
    (computed : integerPower base exponent = .ok power) :
    bitLength power.natAbs ≤ maxPowerBits := by
  obtain ⟨e, rfl, within, rfl⟩ := integerPower_eq_ok.1 computed
  exact within.isNarrow

/-! ## Widths of what is computed -/

/-- No integer that is computed has more binary digits, and neither has the outcome. -/
structure Worked.Narrow (bits : Nat) (worked : Worked Int) : Prop where
  computed : ∀ z ∈ worked.computed, bitLength z.natAbs ≤ bits
  outcome : ∀ z, worked.outcome = .ok z → bitLength z.natAbs ≤ bits

namespace Worked

variable {bits few : Nat}

theorem narrow_error (raised : Raised) : (of (.error raised)).Narrow bits where
  computed := by simp [of]
  outcome := by simp

theorem narrow_pure {z : Int} (narrow : bitLength z.natAbs ≤ bits) :
    (pure z : Worked Int).Narrow bits where
  computed := by simp [pure, of]
  outcome := by simp [narrow]

theorem narrow_compute {z : Int} (narrow : bitLength z.natAbs ≤ bits) :
    (compute z).Narrow bits where
  computed := by simp [compute, narrow]
  outcome := by simp [narrow]

theorem narrow_of_bind {α : Type} {outcome : Attempt α} {next : α → Worked Int}
    (behind : ∀ a, outcome = .ok a → (next a).Narrow bits) :
    (of outcome >>= next).Narrow bits := by
  cases outcome with
  | error raised => exact narrow_error raised
  | ok a => exact behind a rfl

theorem narrow_compute_bind {z : Int} {next : Int → Worked Int}
    (narrow : bitLength z.natAbs ≤ bits) (behind : (next z).Narrow bits) :
    (compute z >>= next).Narrow bits where
  computed := by
    rintro z' (_ | ⟨_, member⟩)
    · exact narrow
    · exact behind.computed z' member
  outcome := behind.outcome

theorem Narrow.bind {first : Worked Int} {next : Int → Worked Int} (narrow : first.Narrow few)
    (le : few ≤ bits) (behind : ∀ z, bitLength z.natAbs ≤ few → (next z).Narrow bits) :
    (first >>= next).Narrow bits := by
  obtain ⟨outcome, integers⟩ := first
  have early : ∀ z ∈ integers, bitLength z.natAbs ≤ bits :=
    fun z member => Nat.le_trans (narrow.computed z member) le
  cases outcome with
  | error raised => exact ⟨early, by rintro z ⟨⟩⟩
  | ok a =>
    have late := behind a (narrow.outcome a rfl)
    refine ⟨fun z member => ?_, late.outcome⟩
    rcases List.mem_append.1 member with member | member
    · exact early z member
    · exact late.computed z member

end Worked

open Worked

theorem workRemainder_narrow {a b : Int} {bits : Nat} (left : bitLength a.natAbs ≤ bits)
    (right : bitLength b.natAbs ≤ bits) : (workRemainder a b).Narrow bits := by
  have magnitude : ((a.natAbs : Int) % b.natAbs).natAbs = a.natAbs % b.natAbs := by
    rw [← Int.natCast_emod, Int.natAbs_natCast]
  have remainder : bitLength ((a.natAbs : Int) % b.natAbs).natAbs ≤ bits := by
    rw [magnitude]
    exact Nat.le_trans (bitLength_mono (Nat.mod_le ..)) left
  refine narrow_compute_bind (by rwa [Int.natAbs_natCast])
    (narrow_compute_bind (by rwa [Int.natAbs_natCast]) ?_)
  split
  · exact narrow_error _
  · refine narrow_compute_bind remainder ?_
    split
    · exact narrow_compute (by rwa [Int.natAbs_neg])
    · exact narrow_pure remainder

/-- What the estimate of a power multiplies is the width of the base and the exponent. -/
theorem workPower_narrow {a b : Int} {bits few many : Nat} (left : bitLength a.natAbs ≤ few)
    (right : bitLength b.natAbs ≤ many) (enough : few + many ≤ bits)
    (wide : maxPowerBits ≤ bits) : (workPower a b).Narrow bits := by
  by_cases negative : b < 0
  · rw [workPower, if_pos negative]
    exact narrow_error _
  by_cases zero : b = 0
  · rw [workPower, if_neg negative, if_pos zero]
    exact narrow_compute (Nat.le_trans (by decide) wide)
  rw [workPower, if_neg negative, if_neg zero]
  have width : bitLength (bitLength a.natAbs) ≤ few :=
    Nat.le_trans (bitLength_le_self _) left
  have estimate : bitLength ((bitLength a.natAbs : Int) * b).natAbs ≤ few + many := by
    rw [Int.natAbs_mul, Int.natAbs_natCast]
    exact Nat.le_trans (bitLength_mul_le ..) (Nat.add_le_add width right)
  refine narrow_compute_bind (by rw [Int.natAbs_natCast]; omega)
    (narrow_compute_bind (Nat.le_trans estimate enough) ?_)
  split
  · exact narrow_error _
  · rename_i within
    obtain ⟨e, rfl⟩ := Int.eq_ofNat_of_zero_le (Int.not_lt.1 negative)
    have narrow : WithinEstimate a e := .inr (by
      rw [← Int.natCast_mul, Int.ofNat_lt] at within
      exact Nat.le_of_not_lt within)
    exact narrow_compute (Nat.le_trans narrow.isNarrow wide)

/-- One operator adds no more than the bound of a power to what its operands are bounded by. -/
theorem Op.work_narrow {o : Op} {apply : Int → Int → Worked Int}
    (known : workTable.lookup o.chars = some apply) {a b : Int} {few many bits : Nat}
    (left : bitLength a.natAbs ≤ few) (right : bitLength b.natAbs ≤ many)
    (enough : few + maxPowerBits + many ≤ bits) : (apply a b).Narrow bits := by
  have one : 1 ≤ maxPowerBits := by decide
  have sum (b : Int) (right : bitLength b.natAbs ≤ many) : bitLength (a + b).natAbs ≤ bits := by
    have := bitLength_mono (Int.natAbs_add_le a b)
    have := bitLength_add_le a.natAbs b.natAbs
    omega
  cases o with
  | add =>
    cases known
    exact narrow_compute (sum b right)
  | sub =>
    cases known
    exact narrow_compute (sum (-b) (by rwa [Int.natAbs_neg]))
  | mul =>
    cases known
    refine narrow_compute ?_
    have := bitLength_mul_le a.natAbs b.natAbs
    rw [Int.natAbs_mul]
    omega
  | rem =>
    cases known
    exact workRemainder_narrow (by omega) (by omega)
  | pow =>
    cases known
    exact workPower_narrow left right (by omega) (by omega)
  | div | hat => cases known

/-! ## Trees and texts -/

namespace Expr

/-- The characters that a tree is written with, but for its parentheses. -/
def spelled (tree : Expr) : List Char :=
  tree.inorder.flatMap Lexeme.chars

theorem spelled_binary (o : Op) (left right : Expr) :
    (binary o left right).spelled = left.spelled ++ (o.chars ++ right.spelled) := by
  simp [spelled, inorder, Lexeme.chars]

theorem spelled_signed (sign : Sign) (operand : Expr) :
    (signed sign operand).spelled = sign.op.chars ++ operand.spelled := by
  simp [spelled, inorder, Lexeme.chars]

theorem attemptExact_number_narrow {n : Numeral} {z : Int}
    (read : (number n).attemptExact = .ok z) :
    bitLength z.natAbs ≤ maxPowerBits * n.chars.length := by
  rw [attemptExact_number] at read
  cases n with
  | mixed _ _ | fraction _ => cases read
  | integer whole =>
    simp only [Numeral.exact] at read
    split at read
    · cases read
    · cases read
      have digits := bitLength_value_le whole.toList
      have few : 4 * whole.toList.length ≤ maxPowerBits * whole.toList.length :=
        Nat.mul_le_mul_right _ (by decide)
      simpa [Numeral.chars, Text.Digits.chars] using Nat.le_trans digits few

/-- The induction over a tree. Each character that it is written with counts as much as a power
may be wide. -/
theorem work_narrow (tree : Expr) : tree.work.Narrow (maxPowerBits * tree.spelled.length) := by
  induction tree with
  | number n =>
    have written : (number n).spelled = n.chars := List.append_nil _
    rw [work, written]
    exact narrow_of_bind fun z read => narrow_compute (attemptExact_number_narrow read)
  | signed sign operand ih =>
    rw [work, spelled_signed, List.length_append]
    have shorter := Nat.mul_le_mul_left maxPowerBits
      (Nat.le_add_left operand.spelled.length sign.op.chars.length)
    refine narrow_of_bind fun apply known => ih.bind shorter fun a narrow => narrow_compute ?_
    rw [lookup_signTable] at known
    cases sign <;> cases known
    · exact Nat.le_trans narrow shorter
    · exact Nat.le_trans (by rwa [Int.natAbs_neg]) shorter
  | binary o left right ihl ihr =>
    have written : 0 < o.chars.length := by cases o <;> decide
    rw [work, spelled_binary, List.length_append, List.length_append, Nat.mul_add, Nat.mul_add]
    have operator : maxPowerBits ≤ maxPowerBits * o.chars.length :=
      Nat.le_mul_of_pos_right _ written
    refine narrow_of_bind fun apply known => ?_
    have known : workTable.lookup o.chars = some apply := by
      cases found : workTable.lookup o.chars with
      | none => rw [found] at known; cases known
      | some apply' => rw [found] at known; cases known; rfl
    refine ihl.bind (by omega) fun a narrowLeft => ihr.bind (by omega) fun b narrowRight => ?_
    exact Op.work_narrow known narrowLeft narrowRight (by omega)

/-- A text that parses has no fewer characters than its tree is written with. -/
theorem length_spelled_le {text : List Char} {tree : Expr} (parsed : parse text = .ok tree) :
    tree.spelled.length ≤ (squeeze text).length := by
  obtain ⟨lexemes, depth, _, derives, written⟩ := exists_derives_of_parse parsed
  rw [written, spelled, ← derives.inorder_eq]
  exact (List.filter_sublist.flatMap Lexeme.chars).length_le

theorem length_spelled_of_mem_nodes {tree node : Expr} (member : node ∈ tree.nodes) :
    node.spelled.length ≤ tree.spelled.length := by
  induction tree with
  | number n => rw [mem_nodes_number.1 member]
  | signed sign operand ih =>
    rcases mem_nodes_signed.1 member with rfl | member
    · exact Nat.le_refl _
    · rw [spelled_signed, List.length_append]
      exact Nat.le_trans (ih member) (Nat.le_add_left ..)
  | binary o left right ihl ihr =>
    rw [spelled_binary, List.length_append, List.length_append]
    rcases mem_nodes_binary.1 member with rfl | member | member
    · rw [spelled_binary, List.length_append, List.length_append]
    · exact Nat.le_trans (ihl member) (Nat.le_add_right ..)
    · have := ihr member
      omega

theorem outcome_of_exact {tree : Expr} {z : Int} (value : tree.exact = .ok z) :
    tree.work.outcome = .ok z := by
  have known : tree.HasExactOperators := by
    simpa [HasExactOperators] using any_isInexactOperator_of_exact value
  rw [work_outcome, attemptExact_eq known, value]
  rfl

end Expr

/-- Exact evaluation computes no integer that has more than ten thousand binary digits for each
character of the text, blanks aside, whether it comes to a value or not. A power has never more than
ten thousand. -/
theorem exact_stays_narrow (text : List Char) :
    (∀ tree, Expr.parse text = .ok tree ∨ Expr.parse (squeeze text) = .ok tree →
      tree.work.outcome = tree.attemptExact ∧
      (∀ z ∈ tree.work.computed, bitLength z.natAbs ≤ 10000 * (squeeze text).length) ∧
      ∀ node ∈ tree.nodes, ∀ z, node.exact = .ok z →
        bitLength z.natAbs ≤ 10000 * (squeeze text).length) ∧
    ∀ base exponent power, integerPower base exponent = .ok power →
      bitLength power.natAbs ≤ 10000 := by
  refine ⟨fun tree parsed => ?_, fun _ _ _ => bitLength_of_integerPower⟩
  have parsed : Expr.parse (squeeze text) = .ok tree := parsed.elim Expr.parse_squeeze id
  have short : tree.spelled.length ≤ (squeeze text).length := by
    simpa [Text.squeeze] using Expr.length_spelled_le parsed
  have bound {node : Expr} (member : node ∈ tree.nodes) :
      maxPowerBits * node.spelled.length ≤ 10000 * (squeeze text).length :=
    Nat.mul_le_mul_left 10000 (Nat.le_trans (Expr.length_spelled_of_mem_nodes member) short)
  refine ⟨tree.work_outcome, fun z member => ?_, fun node member z value => ?_⟩
  · exact Nat.le_trans (tree.work_narrow.computed z member) (bound tree.mem_nodes_self)
  · exact Nat.le_trans (node.work_narrow.outcome z (Expr.outcome_of_exact value)) (bound member)

/-- A remainder by a computed zero has no value, and both magnitudes are computed before it is
refused. -/
theorem exact_stays_narrow_zero_divisor :
    ∃ tree, Expr.parse "12 % (3 - 3)".toList = .ok tree ∧
      tree.work = ⟨.error .zeroDivision, [12, 3, 3, 0, 12, 0]⟩ ∧
      (∀ z ∈ tree.work.computed, bitLength z.natAbs ≤ 10000 * 8) ∧
      integerPower (-3) 3 = .ok (-27) ∧ bitLength (-27 : Int).natAbs ≤ 10000 := by
  have parsed : Expr.parse "12 % (3 - 3)".toList = .ok (.binary .rem (.number (.integer ⟨1, [2]⟩))
      (.binary .sub (.number (.integer ⟨3, []⟩)) (.number (.integer ⟨3, []⟩)))) := by
    decide +kernel
  have power : integerPower (-3) 3 = .ok (-27) := by rfl
  obtain ⟨trees, powers⟩ := exact_stays_narrow "12 % (3 - 3)".toList
  exact ⟨_, parsed, by rfl, (trees _ (.inl parsed)).2.1, power, powers _ _ _ power⟩

end Reckoner
