import Reckoner.Evaluation.Levels
import Reckoner.Proofs.Evaluation.Routing
import Reckoner.Proofs.Expr.Listing
import Reckoner.Proofs.Expr.Printing

/-!
# When evaluations founder

A rounded evaluation founders if the tree is too high, `Expr.roundedWithin_eq`. An exact one can
also be refused before it gets so deep, and gives nothing else than it gives without a bound,
`Expr.exactWithin_eq_some`.

So a calculator on an interpreter with some levels breaks down where it `Founders`, and does the same
as one without a bound elsewhere, `Calculator.compute_within`. A tree is no higher than its text is
long, so that no text of as many characters as there are levels founders. But for any number of levels
there is a sum that does, `Calculator.founders_digitSum`.
-/

namespace Reckoner

open Text (Digit isBlank squeeze trim)

namespace Expr

/-! ## Trees -/

theorem height_pos (e : Expr) : 0 < e.height := by
  cases e <;> simp [height]

theorem roundedWithin_eq (levels : Nat) (e : Expr) :
    e.roundedWithin levels = if e.height ≤ levels then some e.rounded else none := by
  induction e generalizing levels with
  | number n => cases levels <;> simp [roundedWithin, height, rounded]
  | signed sign operand ih =>
    cases levels with
    | zero => simp [roundedWithin, height]
    | succ levels =>
      simp only [roundedWithin, height, ih, Nat.add_le_add_iff_right]
      split <;> rfl
  | binary op left right ihl ihr =>
    cases levels with
    | zero => simp [roundedWithin, height]
    | succ levels =>
      simp only [roundedWithin, height, ihl, ihr, Nat.add_le_add_iff_right, Nat.max_le]
      by_cases low : left.height ≤ levels <;> by_cases low' : right.height ≤ levels <;>
        simp [low, low', rounded]

/-- A bound on the levels changes no outcome, so `Evaluators.within` gives the one without a bound. -/
theorem exactWithin_eq_some {levels : Nat} {e : Expr} {outcome : Except Refusal Int}
    (evaluated : e.exactWithin levels = some outcome) : outcome = e.exact := by
  -- The levels go down with the tree, so the hypotheses are about any number of them.
  induction e generalizing levels outcome with
  | number n =>
    cases levels with
    | zero => cases evaluated
    | succ levels => exact (Option.some.inj evaluated).symm
  | signed sign operand ih =>
    cases levels with
    | zero => cases evaluated
    | succ levels =>
      simp only [exactWithin] at evaluated
      split at evaluated
      · cases evaluated
      all_goals
        rename_i inner
        cases evaluated
        simp [exact, ← ih inner]
  | binary op left right ihl ihr =>
    cases levels with
    | zero => cases evaluated
    | succ levels =>
      simp only [exactWithin] at evaluated
      split at evaluated
      · cases evaluated
      · rename_i inner
        cases evaluated
        simp [exact, ← ihl inner]
      · rename_i inner
        split at evaluated
        · cases evaluated
        all_goals
          rename_i inner'
          cases evaluated
          simp [exact, ← ihl inner, ← ihr inner']

theorem exactWithin_of_height_le {levels : Nat} {e : Expr} (low : e.height ≤ levels) :
    e.exactWithin levels = some e.exact := by
  induction e generalizing levels with
  | number n =>
    obtain ⟨levels, rfl⟩ := Nat.exists_eq_succ_of_ne_zero (Nat.one_le_iff_ne_zero.1 low)
    rfl
  | signed sign operand ih =>
    obtain ⟨levels, rfl⟩ := Nat.exists_eq_add_of_lt (Nat.lt_of_lt_of_le (height_pos _) low)
    simp only [height, Nat.zero_add, Nat.add_le_add_iff_right] at low
    simp only [Nat.zero_add, exactWithin, ih low, exact]
    cases operand.exact <;> rfl
  | binary op left right ihl ihr =>
    obtain ⟨levels, rfl⟩ := Nat.exists_eq_add_of_lt (Nat.lt_of_lt_of_le (height_pos _) low)
    simp only [height, Nat.zero_add, Nat.add_le_add_iff_right, Nat.max_le] at low
    simp only [Nat.zero_add, exactWithin, ihl low.1, ihr low.2, exact]
    cases left.exact with
    | error why => rfl
    | ok l => cases right.exact <;> rfl

theorem height_le_size (e : Expr) : e.height ≤ e.size := by
  induction e with
  | number n => exact Nat.le_refl 1
  | signed sign operand ih => simpa [height, size] using ih
  | binary op left right ihl ihr =>
    simp only [height, size]
    omega

/-- A text has a character for each node of its tree. -/
theorem height_le_length_of_parse {text : List Char} {tree : Expr}
    (parsed : parse text = .ok tree) : tree.height ≤ (squeeze text).length := by
  obtain ⟨lexemes, depth, _, derives, spelled⟩ := exists_derives_of_parse parsed
  have chars (lexemes : List Lexeme) : lexemes.length ≤ (lexemes.flatMap Lexeme.chars).length := by
    induction lexemes with
    | nil => exact Nat.le_refl 0
    | cons lexeme lexemes ih =>
      have one := lexeme.length_chars_pos
      simp only [List.flatMap_cons, List.length_append, List.length_cons]
      omega
  calc tree.height
    _ ≤ tree.size := tree.height_le_size
    _ = (lexemes.filter (!·.isParenthesis)).length := by
      rw [derives.inorder_eq, length_inorder]
    _ ≤ lexemes.length := List.length_filter_le ..
    _ ≤ (lexemes.flatMap Lexeme.chars).length := chars lexemes
    _ = (squeeze text).length := by rw [spelled]

end Expr

/-! ## Texts -/

section Texts

variable {levels : Nat} {text : List Char}

theorem exactFounders_iff :
    exactFounders levels text = true ↔
      ∃ tree, Expr.parse (squeeze text) = .ok tree ∧
        tree.nodes.any Expr.isInexactOperator = false ∧ tree.exactWithin levels = none := by
  unfold exactFounders
  cases Expr.parse (squeeze text) <;> simp

theorem roundedFounders_iff :
    roundedFounders levels text = true ↔
      ∃ tree, Expr.parse text = .ok tree ∧ levels < tree.height := by
  unfold roundedFounders
  cases Expr.parse text <;> simp [Expr.roundedWithin_eq]

theorem exactFounders_of_length_le (short : text.length ≤ levels) :
    exactFounders levels text = false := by
  rw [← Bool.not_eq_true, exactFounders_iff]
  rintro ⟨tree, parsed, _, founders⟩
  have low := Expr.height_le_length_of_parse parsed
  have squeezed : (squeeze (squeeze text)).length ≤ text.length :=
    (List.length_filter_le ..).trans (List.length_filter_le ..)
  rw [Expr.exactWithin_of_height_le (low.trans (squeezed.trans short))] at founders
  cases founders

theorem roundedFounders_of_length_le (short : text.length ≤ levels) :
    roundedFounders levels text = false := by
  rw [← Bool.not_eq_true, roundedFounders_iff]
  rintro ⟨tree, parsed, high⟩
  have low := Expr.height_le_length_of_parse parsed
  have squeezed : (squeeze text).length ≤ text.length := List.length_filter_le ..
  omega

end Texts

namespace Calculator

/-! ## Calculators -/

/-- One of the evaluators that are asked about a text founders: the exact one, or the rounded one if
there is no exact value. -/
def Founders (levels : Nat) (text : List Char) : Prop :=
  usesExact text = true ∧ exactFounders levels text = true ∨
    (usesExact text = true →
      exactFounders levels text = false ∧ (exactResult text).result = none) ∧
    roundedFounders levels text = true

variable {levels : Nat} {text : List Char}

theorem not_founders_of_length_le (short : text.length ≤ levels) : ¬Founders levels text := by
  simp [Founders, exactFounders_of_length_le short, roundedFounders_of_length_le short]

theorem compute_within_of_founders (founders : Founders levels text) :
    (compute (.within levels) text).result = .error .tooDeep := by
  unfold compute
  rcases founders with ⟨uses, exact⟩ | ⟨exact, rounded⟩
  · simp [uses, Evaluators.within, exact]
  · by_cases uses : usesExact text = true
    · obtain ⟨passes, nothing⟩ := exact uses
      simp [uses, Evaluators.within, Evaluators.own, passes, nothing, rounded]
    · simp [uses, Evaluators.within, rounded]

/-- The rounded evaluator is only asked if the exact one has nothing. -/
theorem compute_congr {evaluators : Evaluators}
    (exact : usesExact text = true → evaluators.exact text = Evaluators.own.exact text)
    (rounded : (usesExact text = true → (exactResult text).result = none) →
      evaluators.rounded text = Evaluators.own.rounded text) :
    compute evaluators text = compute .own text := by
  unfold compute
  by_cases uses : usesExact text = true
  · simp only [uses, if_true, exact uses]
    cases found : (exactResult text).result with
    | some value => simp [bind, Evaluators.own, found]
    | none => simp [bind, Evaluators.own, found, rounded fun _ => found]
  · simp only [uses, if_false, Bool.false_eq_true, rounded fun used => absurd used uses]

/-- Where nothing founders, the bound makes no difference. -/
theorem compute_within (passes : ¬Founders levels text) :
    compute (.within levels) text = compute .own text := by
  simp only [Founders, not_or, not_and, Bool.not_eq_true] at passes
  -- What the rounded evaluator would do matters only where the exact one has nothing.
  refine compute_congr (fun uses => ?_) fun nothing => ?_
  · simp [Evaluators.within, passes.1 uses]
  · have through := passes.2 fun uses => ⟨passes.1 uses, nothing uses⟩
    simp [Evaluators.within, through]

end Calculator

/-! ## Sums -/

namespace Expr

/-- A digit, with the same digit added to it some more times. -/
def digitSum (d : Digit) : Nat → Expr
  | 0 => .number (.integer ⟨d, []⟩)
  | more + 1 => .binary .add (digitSum d more) (.number (.integer ⟨d, []⟩))

variable (d : Digit) (more : Nat)

theorem nesting_digitSum : (digitSum d more).nesting = 0 := by
  induction more with
  | zero => rfl
  | succ more ih =>
    simp [digitSum, nesting, ih, Op.leftSlot, Op.rightSlot, Slot.encloses, isSum, Op.isPower]

theorem print_digitSum :
    (digitSum d more).print = d.toChar :: (List.replicate more ['+', d.toChar]).flatten := by
  induction more with
  | zero => rfl
  | succ more ih =>
    have behind : (digitSum d (more + 1)).print = (digitSum d more).print ++ ['+', d.toChar] := rfl
    rw [behind, ih, List.replicate_succ', List.flatten_append]
    simp

theorem length_print_digitSum : (digitSum d more).print.length = 2 * more + 1 := by
  simp [print_digitSum, Nat.mul_comm]

theorem parse_digitSum : parse (squeeze (digitSum d more).print) = .ok (digitSum d more) := by
  have solid : squeeze (digitSum d more).print = (digitSum d more).print :=
    List.filter_eq_self.2 fun c member => by simpa using isBlank_of_mem_print member
  rw [solid, ← flatMap_lexemes]
  exact parse_of_derives (by simp [nesting_digitSum]) (digitSum d more).derives_sum_lexemes

theorem not_isInexactOperator_digitSum :
    (digitSum d more).nodes.any isInexactOperator = false := by
  rw [nodes_eq_preorder]
  induction more with
  | zero => rfl
  | succ more ih => simp_all [digitSum, preorder, isInexactOperator]

variable {d more}

/-- The first two digits are the deepest, and they are added first. -/
theorem exactWithin_digitSum {levels : Nat} (few : levels ≤ more) :
    (digitSum d more).exactWithin levels = none := by
  -- Each level is used up by the last of the additions that are left.
  induction levels generalizing more with
  | zero => rfl
  | succ levels ih =>
    cases more with
    | zero => cases few
    | succ more => simp only [digitSum, exactWithin, ih (Nat.le_of_succ_le_succ few)]

theorem eq_digit_or_plus_of_mem_print {c : Char} (member : c ∈ (digitSum d more).print) :
    c = d.toChar ∨ c = '+' := by
  simp only [print_digitSum, List.mem_cons, List.mem_flatten, List.mem_replicate] at member
  rcases member with digit | ⟨_, ⟨_, rfl⟩, within⟩
  · exact .inl digit
  · exact (List.mem_pair.1 within).symm

end Expr

/-- With at most as many levels as there are digits to add, a sum founders. -/
theorem Calculator.founders_digitSum {levels more : Nat} (d : Digit) (few : levels ≤ more) :
    Founders levels (Expr.digitSum d more).print := by
  have others : ∀ d : Digit, d.toChar ≠ '.' ∧ d.toChar ≠ '/' := by decide
  have exact : usesExact (Expr.digitSum d more).print = true := by
    simp only [usesExact, Bool.and_eq_true, Bool.not_eq_true', List.contains_eq_mem,
      decide_eq_false_iff_not]
    constructor <;> intro member <;>
      rcases Expr.eq_digit_or_plus_of_mem_print member with same | same
    · exact (others d).1 same.symm
    · cases same
    · exact (others d).2 same.symm
    · cases same
  exact .inl ⟨exact, exactFounders_iff.2 ⟨_, Expr.parse_digitSum d more,
    Expr.not_isInexactOperator_digitSum d more, Expr.exactWithin_digitSum few⟩⟩

end Reckoner
