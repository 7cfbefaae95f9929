import Reckoner.Proofs.Evaluation.Normal
import Reckoner.Proofs.Evaluation.Obstacles

/-!
# What an evaluation reports

An evaluation is opened here once and for all. Input that is no text, or a text that does not pass
the gates, is reported as one of the kinds of failure that are about the input,
`Calculator.evaluateWith_cases`. What is reported of any other text depends only on what the
evaluators make of it, `Calculator.error?_conclude`.

`Value.IsResult` is the shape of a reported value. Every success has it,
`Calculator.success_isResult`: an exact value because it stands for an integer, and a rounded one
because of what is left once the noise is removed.
-/

namespace Reckoner

open Text (trim IsDecimal)

-- Powers are those of the core library, whatever else is in scope.
attribute [local instance (high)] instPowNat

namespace Calculator

/-! ## Gates -/

/-- The kinds of failure that are found without an evaluator. -/
def inputKinds : List ErrorKind :=
  [.invalidInput, .emptyInput, .invalidCharacters, .notAnExpression]

theorem gate?_eq_failure {c : Calculator} {text : List Char} {envelope : Envelope}
    (stopped : c.gate? text = some envelope) :
    ∃ kind detail, envelope = .failure kind detail ∧ kind ∈ inputKinds := by
  rw [gate?_eq, enveloped_tooLong] at stopped
  repeat' split at stopped
  all_goals cases stopped
  all_goals exact ⟨_, _, rfl, by decide⟩

/-- Either the evaluators are asked, or the failure is one of the input. -/
theorem evaluateWith_cases (evaluators : Evaluators) (c : Calculator) (input : Json) :
    (∃ s, input = .str s ∧ c.gate? (trim s.toList) = none) ∨
      ∃ kind detail, (c.evaluateWith evaluators input).result = .failure kind detail ∧
        kind ∈ inputKinds := by
  cases input with
  | str s =>
    cases gate : c.gate? (trim s.toList) with
    | none => exact .inl ⟨s, rfl, gate⟩
    | some envelope =>
      refine .inr ?_
      obtain ⟨kind, detail, rfl, member⟩ := gate?_eq_failure gate
      by_cases empty : s = ""
      · subst empty
        exact ⟨.invalidInput, none, rfl, by decide⟩
      · exact ⟨kind, detail, evaluateWith_of_stopped evaluators empty gate, member⟩
  | null | bool _ | int _ | float _ | arr _ | obj _ =>
    exact .inr ⟨.invalidInput, none, rfl, by decide⟩

/-! ## Conclusions -/

theorem error?_conclude (text : List Char) (outcome : Except Fault (Option Value)) :
    (conclude text outcome).result.error? =
      match outcome with
      | .error _ => some .evaluationError
      | .ok none => some .evaluationFailed
      | .ok (some value) => if value.isUnbounded then some .invalidResult else none := by
  cases outcome with
  | error fault => rfl
  | ok value? =>
    cases value? with
    | none => rfl
    | some value =>
      simp only [conclude, Logged.result_pure]
      split <;> rfl

theorem conclude_eq_success {text : List Char} {outcome : Except Fault (Option Value)}
    {value : Value} {detail : Option String}
    (success : (conclude text outcome).result = .success value detail) :
    outcome = .ok (some value) ∧ value.isUnbounded = false := by
  cases outcome with
  | error fault => cases success
  | ok value? =>
    cases value? with
    | none => cases success
    | some given =>
      simp only [conclude, Logged.result_pure] at success
      split at success
      · cases success
      · rename_i bounded
        cases success
        exact ⟨rfl, Bool.not_eq_true _ ▸ bounded⟩

/-- A value that is reported was computed exactly or with rounding. -/
theorem evaluate_eq_success {c : Calculator} {input : Json} {value : Value} {detail : Option String}
    (success : c.evaluate input = .success value detail) :
    value.isUnbounded = false ∧
      ∃ text, (exactResult text).result = some value ∨
        (roundedResult text).result = some value := by
  rcases evaluateWith_cases .own c input with ⟨s, rfl, passes⟩ | ⟨kind, detail', failure, _⟩
  · have concluded := evaluateWith_of_gate .own passes
    rw [compute_eq_or] at concluded
    obtain ⟨computed, bounded⟩ := conclude_eq_success (concluded.symm.trans success)
    have either := Option.or_eq_some_iff.1 (Except.ok.inj computed)
    exact ⟨bounded, trim s.toList, either.imp id And.right⟩
  · cases failure.symm.trans success

theorem isSafe_of_normalize {x : Binary64} {z : Int} (integer : normalize x = .integer z) :
    isSafe z = true := by
  have ofBinary64 (x : Binary64) (integer : Value.ofBinary64 x = .integer z) : isSafe z = true := by
    unfold Value.ofBinary64 at integer
    repeat' split at integer
    all_goals cases integer
    assumption
  unfold normalize at integer
  repeat' split at integer
  all_goals first | cases integer | exact ofBinary64 _ integer

theorem isSafe_of_evaluate {c : Calculator} {input : Json} {z : Int} {detail : Option String}
    (success : c.evaluate input = .success (.integer z) detail) : isSafe z = true := by
  obtain ⟨_, text, exact | rounded⟩ := evaluate_eq_success success
  · obtain ⟨_, _, _, _, _, stands⟩ := exactResult_eq_some.1 exact
    cases stands with
    | integer safe => exact decide_eq_true safe
  · rw [roundedResult_result, toOption_eq_some] at rounded
    unfold roundedValue at rounded
    split at rounded
    · cases rounded
    · exact isSafe_of_normalize (Except.ok.inj rounded)

end Calculator

/-! ## The shape of results -/

/-- A value as it is reported: a safe integer, the canonical decimal of a larger one, or a finite
number that is no safe integer. Unless it is so small that it is written with a power of ten, a
number that is no integer at all has no more significant digits than are kept. -/
inductive Value.IsResult : Value → Prop where
  | integer {z} : z.natAbs ≤ maxSafeInteger → IsResult (.integer z)
  | digits {s z} : maxSafeInteger < z.natAbs → IsDecimal s.toList z → IsResult (.text s)
  | broken {x} : x.isFinite = true → x.toInt? = none →
      (x.magnitudeLt exponentFormBelow = false → x.roundSignificant significantDigits = x) →
      IsResult (.float x)
  | large {x z} : x.toInt? = some z → maxSafeInteger < z.natAbs → IsResult (.float x)

theorem Value.StandsFor.isResult {value : Value} {z : Int} (stands : value.StandsFor z) :
    value.IsResult := by
  cases stands with
  | integer safe => exact .integer safe
  | digits large decimal => exact .digits large decimal

theorem normalize_isResult {x : Binary64} (finite : x.isFinite = true) :
    (normalize x).IsResult := by
  cases integer : x.toInt? with
  | some z =>
    rw [normalize_of_toInt? integer]
    split
    · rename_i safe
      exact .integer (of_decide_eq_true safe)
    · rename_i large
      exact .large integer (Nat.not_le.1 fun safe => large (decide_eq_true safe))
  | none =>
    cases small : x.magnitudeLt exponentFormBelow with
    | true =>
      rw [normalize_of_small finite integer small]
      exact .broken finite integer fun above => by cases small.symm.trans above
    | false =>
      rw [normalize_of_broken finite integer small]
      obtain ⟨negative, units, fits, rounded, _⟩ := exists_roundSignificant_eq_finite finite integer
      cases integer' : (x.roundSignificant significantDigits).toInt? with
      | some z =>
        have safe := isSafe_of_roundSignificant finite integer integer'
        simp only [Value.ofBinary64, integer', safe, if_true]
        exact .integer (of_decide_eq_true safe)
      | none =>
        simp only [Value.ofBinary64, integer']
        rw [rounded] at integer' ⊢
        refine .broken rfl integer' ?_
        intro above
        have large := Binary64.lt_units_of_not_exponentForm above
        exact Binary64.roundSignificant_idempotent (by decide) rounded (by omega)

namespace Calculator

/-- Whatever is evaluated, a success has the shape of a result. Rounding a number that is no integer
never gives an integer beyond the safe range. -/
theorem success_isResult (c : Calculator) (input : Json) :
    (∀ value detail, c.evaluate input = .success value detail → value.IsResult) ∧
    (∀ x : Binary64, x.isFinite = true → x.toInt? = none → ∀ z,
      (x.roundSignificant significantDigits).toInt? = some z → z.natAbs ≤ maxSafeInteger) := by
  constructor
  · intro value detail success
    obtain ⟨bounded, text, exact | rounded⟩ := evaluate_eq_success success
    · obtain ⟨tree, z, _, _, _, stands⟩ := exactResult_eq_some.1 exact
      exact stands.isResult
    · rw [roundedResult_result, toOption_eq_some] at rounded
      unfold roundedValue at rounded
      split at rounded
      · cases rounded
      · rename_i tree _
        cases rounded
        rw [isUnbounded_normalize, Bool.not_eq_false'] at bounded
        exact normalize_isResult bounded
  · intro x finite broken z integer
    exact of_decide_eq_true (isSafe_of_roundSignificant finite broken integer)

/-- A third of a hundred keeps 15 digits; what is just below three rounds to three. -/
theorem success_isResult_third_of_hundred :
    ((ofLimit none).evaluate (.str "100 / 3") =
        .success (.float (.ofDecimal false 333333333333333 (-13))) none ∧
      Value.IsResult (.float (.ofDecimal false 333333333333333 (-13)))) ∧
    (Binary64.ofDecimal false 29999999999999996 (-16)).isFinite = true ∧
    (Binary64.ofDecimal false 29999999999999996 (-16)).toInt? = none ∧
    ((Binary64.ofDecimal false 29999999999999996 (-16)).roundSignificant
      significantDigits).toInt? = some 3 ∧
    (3 : Int).natAbs ≤ maxSafeInteger := by
  have third : (ofLimit none).evaluate (.str "100 / 3") =
      .success (.float (.ofDecimal false 333333333333333 (-13))) none := by decide +kernel
  have finite : (Binary64.ofDecimal false 29999999999999996 (-16)).isFinite = true := by
    decide +kernel
  have broken : (Binary64.ofDecimal false 29999999999999996 (-16)).toInt? = none := by
    decide +kernel
  have three : ((Binary64.ofDecimal false 29999999999999996 (-16)).roundSignificant
      significantDigits).toInt? = some 3 := by decide +kernel
  obtain ⟨shape, safe⟩ := success_isResult (ofLimit none) (.str "100 / 3")
  exact ⟨⟨third, shape _ _ third⟩, finite, broken, three, safe _ finite broken _ three⟩

end Calculator

end Reckoner
