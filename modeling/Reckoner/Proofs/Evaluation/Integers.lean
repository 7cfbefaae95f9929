import Reckoner.Proofs.Evaluation.Denotation

/-!
# Texts of integers

A text without a point, a slash and a hat stands for an integer, as long as no remainder by zero is
taken and its powers are narrow. `evaluate_of_narrow_powers` says when it is also evaluated to that
integer: the estimate by which powers are refused can be far above their width, of which a base of
one is the extreme, and a text with such a power is left to rounded evaluation.
-/

namespace Reckoner

open Text (squeeze trim)

-- Powers are those of the core library, whatever else is in scope.
attribute [local instance (high)] instPowNat

/-! ## Values -/

/-- The result of an integer, however many digits it has. -/
def Value.ofInteger (z : Int) : Value :=
  if isSafe z then .integer z else .text (String.ofList (Text.Digits.textInt z))

theorem Value.ofExact_of_lt {z : Int} (short : z.natAbs < 10 ^ Text.Digits.maxRun) :
    Value.ofExact z = .ok (.ofInteger z) := by
  unfold ofExact ofInteger
  split
  · rfl
  · rw [if_neg (Nat.not_le.2 short)]

theorem Value.isUnbounded_ofInteger (z : Int) : (ofInteger z).isUnbounded = false := by
  unfold ofInteger
  split <;> rfl

/-- A rounded value is a number, so that the digits of an integer never are one. -/
theorem normalize_eq_ofInteger {x : Binary64} {z : Int} :
    normalize x = .ofInteger z ↔ isSafe z = true ∧ normalize x = .integer z := by
  have number : ∀ digits, normalize x ≠ .text digits := by
    intro digits
    unfold normalize Value.ofBinary64
    split_ifs <;> (try split) <;> (try split_ifs) <;> simp
  unfold Value.ofInteger
  by_cases safe : isSafe z = true
  · simp [safe]
  · simp [safe, number]

theorem roundedValue_eq_ofInteger {text : List Char} {z : Int} :
    roundedValue text = .ok (.ofInteger z) ↔
      isSafe z = true ∧ roundedValue text = .ok (.integer z) := by
  unfold roundedValue
  cases Expr.parse text with
  | error error => simp
  | ok tree =>
    simp only [Except.ok.injEq]
    exact normalize_eq_ofInteger

/-! ## Texts -/

namespace Calculator

theorem conclude_eq_ok {text : List Char} {outcome : Option Value} {value : Value} :
    (conclude text (.ok outcome)).result = .ok value ↔
      outcome = some value ∧ value.isUnbounded = false := by
  cases outcome with
  | none => simp [conclude, Envelope.ok, Envelope.fail]
  | some given =>
    cases unbounded : given.isUnbounded with
    | true =>
      simp only [conclude, unbounded, Logged.result_pure]
      constructor
      · intro refused
        cases refused
      · rintro ⟨same, bounded⟩
        cases same
        cases unbounded.symm.trans bounded
    | false =>
      simp only [conclude, unbounded, Logged.result_pure]
      constructor
      · intro same
        cases same
        exact ⟨rfl, unbounded⟩
      · rintro ⟨same, bounded⟩
        cases same
        rfl

/-- A text that is let through, and that stands for an integer if powers of the greatest width are
computed: the integer and all literals have no more digits than can be printed and read. -/
structure IntegerText (c : Calculator) (s : String) (tree : Expr) (z : Int) : Prop where
  nonempty : s ≠ ""
  passes : c.gate? (trim s.toList) = none
  parsed : Expr.parse (squeeze s.toList) = .ok tree
  denotes : Denotes IsNarrow tree z
  shortLiterals : tree.ShortLiterals
  shortValue : z.natAbs < 10 ^ Text.Digits.maxRun

theorem IntegerText.exactValue_eq {c : Calculator} {s : String} {tree : Expr} {z : Int}
    (integers : IntegerText c s tree z) (within : Denotes WithinEstimate tree z) :
    tree.exactValue = .ok (.ofInteger z) := by
  have exact : tree.exact = .ok z := exact_eq_ok_iff_denotes.2 ⟨within, integers.shortLiterals⟩
  rw [Expr.exactValue, exact]
  exact Value.ofExact_of_lt integers.shortValue

theorem IntegerText.exactValue_eq_none {c : Calculator} {s : String} {tree : Expr} {z : Int}
    (integers : IntegerText c s tree z) (wide : ¬ Denotes WithinEstimate tree z) :
    tree.exactValue.toOption = none := by
  cases exact : tree.exact with
  | error why => simp [Expr.exactValue, exact, Except.toOption]
  | ok z' =>
    obtain ⟨within, _⟩ := exact_eq_ok_iff_denotes.1 exact
    obtain rfl := within.unique integers.denotes
    exact absurd within wide

/-! ## Main result -/

/-- What becomes of a text whose powers are all narrow. If they are also within the estimate, the
result is the integer. If not, the result is that of floating-point numbers, which is the integer
only if the integer is safe and the rounding happens to spare it. -/
theorem evaluate_of_narrow_powers {c : Calculator} {s : String} {tree : Expr} {z : Int}
    (integers : IntegerText c s tree z) :
    (Denotes WithinEstimate tree z → c.evaluate (.str s) = .ok (.ofInteger z)) ∧
    (¬ Denotes WithinEstimate tree z →
      c.evaluate (.str s) =
        (conclude (trim s.toList) (.ok (roundedValue (trim s.toList)).toOption)).result) ∧
    (c.evaluate (.str s) = .ok (.ofInteger z) ↔
      Denotes WithinEstimate tree z ∨
        isSafe z = true ∧ roundedValue (trim s.toList) = .ok (.integer z)) := by
  have parsed : Expr.parse (squeeze (trim s.toList)) = .ok tree := by
    rw [squeeze_trim]
    exact integers.parsed
  have exactly : Denotes WithinEstimate tree z → c.evaluate (.str s) = .ok (.ofInteger z) := by
    intro within
    rw [evaluate, run, evaluateWith_of_gate _ integers.passes, compute_eq_or,
      exactResult_of_parse parsed, integers.exactValue_eq within]
    exact conclude_eq_ok.2 ⟨rfl, Value.isUnbounded_ofInteger z⟩
  have roughly : ¬ Denotes WithinEstimate tree z →
      c.evaluate (.str s) =
        (conclude (trim s.toList) (.ok (roundedValue (trim s.toList)).toOption)).result := by
    intro wide
    rw [evaluate, run, evaluateWith_of_gate _ integers.passes, compute_eq_or,
      exactResult_of_parse parsed, integers.exactValue_eq_none wide, Option.none_or,
      roundedResult_result]
  refine ⟨exactly, roughly, ?_⟩
  by_cases within : Denotes WithinEstimate tree z
  · simp [within, exactly within]
  · rw [roughly within, conclude_eq_ok, toOption_eq_some, roundedValue_eq_ofInteger]
    simp [within, Value.isUnbounded_ofInteger]

/-- The fortieth power of three is within the estimate, and too large to be a safe integer. -/
theorem evaluate_of_narrow_powers_three_to_forty :
    IntegerText (ofLimit none) "3 ** 40"
      (.binary .pow (.number (.integer ⟨3, []⟩)) (.number (.integer ⟨4, [0]⟩))) 12157665459056928801 ∧
    (ofLimit none).evaluate (.str "3 ** 40") = .ok (.text "12157665459056928801") := by
  have denotes : ∀ admits : Int → Nat → Prop, admits 3 40 →
      Denotes admits (.binary .pow (.number (.integer ⟨3, []⟩)) (.number (.integer ⟨4, [0]⟩)))
        12157665459056928801 := by
    intro admits admitted
    exact .pow (a := 3) (e := 40) .literal .literal admitted
  have integers : IntegerText (ofLimit none) "3 ** 40"
      (.binary .pow (.number (.integer ⟨3, []⟩)) (.number (.integer ⟨4, [0]⟩)))
      12157665459056928801 := by
    refine ⟨by decide, by decide +kernel, by decide +kernel, denotes _ ?_, ?_, by decide +kernel⟩
    · unfold IsNarrow
      decide +kernel
    · refine Expr.shortLiterals_binary.2 ⟨?_, ?_⟩
      · exact Expr.shortLiterals_integer.2 (by decide)
      · exact Expr.shortLiterals_integer.2 (by decide)
  have within : WithinEstimate 3 40 := .inr (by decide +kernel)
  refine ⟨integers, ?_⟩
  rw [(evaluate_of_narrow_powers integers).1 (denotes _ within)]
  decide +kernel

/-- A power of one is as narrow as can be, but an exponent above the bound makes the estimate refuse
it, and the sum with it is off by one. -/
theorem one_to_large_power_plus_integer :
    IntegerText (ofLimit none) "1 ** 10001 + 9007199254740992"
      (.binary .add
        (.binary .pow (.number (.integer ⟨1, []⟩)) (.number (.integer ⟨1, [0, 0, 0, 1]⟩)))
        (.number (.integer ⟨9, [0, 0, 7, 1, 9, 9, 2, 5, 4, 7, 4, 0, 9, 9, 2]⟩))) 9007199254740993 ∧
    (ofLimit none).evaluate (.str "1 ** 10001 + 9007199254740992") ≠
      .ok (.ofInteger 9007199254740993) := by
  refine ⟨⟨by decide, by decide +kernel, by decide +kernel, ?_, ?_, by decide +kernel⟩, ?_⟩
  · have one : Denotes IsNarrow
        (.binary .pow (.number (.integer ⟨1, []⟩)) (.number (.integer ⟨1, [0, 0, 0, 1]⟩)))
        (1 ^ 10001) := by
      refine .pow .literal .literal ?_
      -- The power itself would take too long to compute.
      unfold IsNarrow
      rw [Int.one_pow]
      decide
    rw [Int.one_pow] at one
    exact .add one .literal
  · refine Expr.shortLiterals_binary.2 ⟨Expr.shortLiterals_binary.2 ⟨?_, ?_⟩, ?_⟩
    · exact Expr.shortLiterals_integer.2 (by decide)
    · exact Expr.shortLiterals_integer.2 (by decide)
    · exact Expr.shortLiterals_integer.2 (by decide)
  · decide +kernel

end Calculator

end Reckoner
