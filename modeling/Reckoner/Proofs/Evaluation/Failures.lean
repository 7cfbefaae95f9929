import Reckoner.Proofs.Evaluation.Attempts.Rounded
import Reckoner.Proofs.Evaluation.Outcomes

/-!
# Kinds of failure

What each kind of failure says about the input. The kinds that are found at the gates are in
`Outcomes`; the others are told apart here:

* there is no envelope only if a text is too long and the limit has too many digits to be written,
  `Calculator.tryEvaluateWith_eq_error_iff`,
* a breakdown is reported only if an evaluator breaks down, `Calculator.evaluationError_iff`, which
  no evaluator does that handles its exceptions, `Calculator.error?_attempting_ne_evaluationError`,
* a failed evaluation is that of a text without an exact value that is not in the grammar,
* an invalid result is that of a text without an exact value that is in the grammar, and whose
  rounded value is not finite.

`Calculator.evaluate_classifies_failures` puts them together.
-/

namespace Reckoner

open Text (trim)

-- Powers are those of the core library, whatever else is in scope.
attribute [local instance (high)] instPowNat

/-! ## Texts of the grammar -/

/-- The tokens of a text derive a tree within the levels that are allowed. -/
def Expr.InGrammar (text : List Char) (tree : Expr) : Prop :=
  ∃ tokens depth, tokenize text = .ok tokens ∧ depth ≤ maxNesting ∧
    Derives .sum (tokens.map Token.lexeme) tree depth

theorem Expr.inGrammar_iff {text : List Char} {tree : Expr} :
    InGrammar text tree ↔ parse text = .ok tree := by
  simp only [InGrammar, parse_eq_ok, ofTokens?_eq_ok_iff_derives, exists_and_left]

theorem roundedResult_eq_none_iff {text : List Char} :
    (roundedResult text).result = none ↔ ¬ ∃ tree, Expr.InGrammar text tree := by
  simp only [Expr.inGrammar_iff]
  cases parsed : Expr.parse text with
  | error error => simp [roundedResult_of_error parsed]
  | ok tree => simp [roundedResult_of_parse parsed]

namespace Calculator

/-! ## Limits -/

/-- The limit has too many digits to be written. -/
def HasUnwrittenLimit (c : Calculator) : Prop :=
  10 ^ Text.Digits.maxRun ≤ c.maxLength.natAbs

/-- Input is a text that is not blank and longer than the limit. -/
def IsTooLong (c : Calculator) (input : Json) : Prop :=
  ∃ s, input = .str s ∧ trim s.toList ≠ [] ∧ c.maxLength < (trim s.toList).length

variable {c : Calculator}

theorem display?_maxLength_eq_none_iff :
    (Value.integer c.maxLength).display? = none ↔ c.HasUnwrittenLimit := by
  rw [Value.display?_eq_none_iff]
  constructor
  · rintro ⟨z, same, long⟩
    cases same
    exact long
  · intro long
    exact ⟨c.maxLength, rfl, long⟩

theorem gate_eq_error_iff {text : List Char} {fault : Fault} :
    c.gate text = .error fault ↔
      (text ≠ [] ∧ c.maxLength < text.length) ∧ c.HasUnwrittenLimit ∧ fault = .unwritten := by
  rw [← display?_maxLength_eq_none_iff]
  unfold gate tooLong
  generalize (Value.integer c.maxLength).display? = limit?
  by_cases empty : text = []
  · simp [empty]
  by_cases long : c.maxLength < text.length
  · cases limit? with
    | none =>
      have same : Fault.unwritten = fault ↔ fault = .unwritten := eq_comm
      simp [empty, long, Except.map, same]
    | some limit => simp [empty, long, Except.map]
  · simp only [List.isEmpty_iff, empty, long, if_false, and_false, false_and, iff_false]
    repeat' split
    all_goals simp

theorem tryEvaluateWith_eq_error_iff (evaluators : Evaluators) (input : Json) (fault : Fault) :
    (c.tryEvaluateWith evaluators input).result = .error fault ↔
      c.IsTooLong input ∧ c.HasUnwrittenLimit ∧ fault = .unwritten := by
  cases input with
  | str s =>
    have gated := @gate_eq_error_iff c (trim s.toList) fault
    simp only [IsTooLong, Json.str.injEq, exists_eq_left', ← gated]
    unfold tryEvaluateWith
    by_cases empty : s = ""
    · subst empty
      have blank : trim [] = [] := rfl
      simp [gate, blank]
    · simp only [empty, if_false]
      cases c.gate (trim s.toList) with
      | error fault => simp
      | ok stopped? => cases stopped? <;> simp
  | null | bool _ | int _ | float _ | arr _ | obj _ => simp [tryEvaluateWith, IsTooLong]

theorem tryEvaluateWith_eq_ok (evaluators : Evaluators) {input : Json}
    (written : ¬(c.IsTooLong input ∧ c.HasUnwrittenLimit)) :
    (c.tryEvaluateWith evaluators input).result = .ok (c.evaluateWith evaluators input).result := by
  unfold evaluateWith
  cases tried : (c.tryEvaluateWith evaluators input).result with
  | error fault =>
    obtain ⟨long, unwritten, _⟩ := (tryEvaluateWith_eq_error_iff evaluators input fault).1 tried
    exact absurd ⟨long, unwritten⟩ written
  | ok envelope => simp [tried, enveloped]

/-! ## Breakdowns -/

/-- A breakdown is reported exactly if the evaluators are asked and break down. -/
theorem evaluationError_iff (evaluators : Evaluators) (c : Calculator) (input : Json) :
    (c.evaluateWith evaluators input).result.error? = some .evaluationError ↔
      ∃ s fault, input = .str s ∧ c.gate? (trim s.toList) = none ∧
        (compute evaluators (trim s.toList)).result = .error fault := by
  constructor
  · intro reported
    rcases evaluateWith_cases evaluators c input with
      ⟨s, rfl, passes⟩ | ⟨kind, detail, failed, early⟩
    · rw [evaluateWith_of_gate evaluators passes, error?_conclude] at reported
      split at reported
      · rename_i fault broken
        exact ⟨s, fault, rfl, passes, broken⟩
      · cases reported
      · split at reported <;> cases reported
    · have other : ∀ kind ∈ inputKinds, kind ≠ .evaluationError := by decide
      rw [failed] at reported
      exact absurd (Option.some.inj reported) (other kind early)
  · rintro ⟨s, fault, rfl, passes, broken⟩
    rw [evaluateWith_of_gate evaluators passes, error?_conclude, broken]

/-- A calculator breaks down in an evaluator only. -/
theorem exists_compute {evaluators : Evaluators}
    (exact : ∀ text, ∃ value?, (evaluators.exact text).result = .ok value?)
    (rounded : ∀ text, ∃ value?, (evaluators.rounded text).result = .ok value?) (text : List Char) :
    ∃ value?, (compute evaluators text).result = .ok value? := by
  obtain ⟨value?, valueExact⟩ := exact text
  obtain ⟨value?', valueRounded⟩ := rounded text
  unfold compute
  split
  · simp only [Logged.result_bind, valueExact]
    cases value? with
    | none => exact ⟨value?', valueRounded⟩
    | some value => exact ⟨some value, rfl⟩
  · exact ⟨value?', valueRounded⟩

section Documented

variable {p : Primitives} (documented : p.Documented) (report : Raised → Fault)

theorem exists_exact_attempting (text : List Char) :
    ∃ value?, ((Evaluators.attempting p report).exact text).result = .ok value? := by
  refine ⟨(exactResult text).result, ?_⟩
  simp [Evaluators.attempting, attemptExactResult_eq, Except.mapError]

include documented

theorem exists_rounded_attempting (text : List Char) :
    ∃ value?, ((Evaluators.attempting p report).rounded text).result = .ok value? := by
  obtain ⟨value?, rounded⟩ := Primitives.exists_attemptRoundedResult documented text
  exact ⟨value?, by simp [Evaluators.attempting, rounded, Except.mapError]⟩

/-- Operations that raise only where they are documented to break nothing down. -/
theorem error?_attempting_ne_evaluationError (c : Calculator) (input : Json) :
    (c.evaluateWith (.attempting p report) input).result.error? ≠ some .evaluationError := by
  intro reported
  obtain ⟨s, fault, rfl, _, broken⟩ := (evaluationError_iff _ c input).1 reported
  obtain ⟨value?, computed⟩ := exists_compute (exists_exact_attempting report)
    (exists_rounded_attempting documented report) (trim s.toList)
  rw [broken] at computed
  cases computed

end Documented

/-! ## Failures behind the gates -/

section Gates

variable {c : Calculator} {s : String} (passes : c.gate? (trim s.toList) = none)

include passes

theorem error?_evaluate :
    (c.evaluate (.str s)).error? =
      match (exactResult (trim s.toList)).result.or (roundedResult (trim s.toList)).result with
      | none => some .evaluationFailed
      | some value => if value.isUnbounded then some .invalidResult else none := by
  have concluded := evaluateWith_of_gate .own passes
  rw [compute_eq_or] at concluded
  rw [evaluate, run, concluded, error?_conclude]
  cases (exactResult (trim s.toList)).result.or (roundedResult (trim s.toList)).result <;> rfl

theorem evaluationFailed_iff :
    (c.evaluate (.str s)).error? = some .evaluationFailed ↔
      (¬ ∃ tree, Expr.InGrammar (trim s.toList) tree) ∧
        (exactResult (trim s.toList)).result = none := by
  rw [error?_evaluate passes, ← roundedResult_eq_none_iff]
  cases (exactResult (trim s.toList)).result with
  | some value =>
    simp
  | none =>
    cases (roundedResult (trim s.toList)).result <;> simp

theorem invalidResult_iff :
    (c.evaluate (.str s)).error? = some .invalidResult ↔
      (exactResult (trim s.toList)).result = none ∧
        ∃ tree, Expr.InGrammar (trim s.toList) tree ∧ tree.rounded.isFinite = false := by
  rw [error?_evaluate passes]
  cases exact : (exactResult (trim s.toList)).result with
  | some value =>
    obtain ⟨_, _, _, _, _, stands⟩ := exactResult_eq_some.1 exact
    cases stands <;> simp [Value.isUnbounded]
  | none =>
    simp only [Expr.inGrammar_iff, Option.none_or, true_and]
    cases parsed : Expr.parse (trim s.toList) with
    | error error => simp [roundedResult_of_error parsed]
    | ok tree => simp [roundedResult_of_parse parsed, isUnbounded_normalize]

end Gates

/-! ## Main result -/

/-- What the failures of a calculator say, for input of any kind. -/
structure ClassifiesFailures (c : Calculator) : Prop where
  raises_iff : ∀ evaluators input fault,
    (c.tryEvaluateWith evaluators input).result = .error fault ↔
      c.IsTooLong input ∧ c.HasUnwrittenLimit ∧ fault = .unwritten
  returns : ∀ evaluators input, ¬(c.IsTooLong input ∧ c.HasUnwrittenLimit) →
    (c.tryEvaluateWith evaluators input).result = .ok (c.evaluateWith evaluators input).result
  broken_iff : ∀ evaluators input,
    (c.evaluateWith evaluators input).result.error? = some .evaluationError ↔
      ∃ s fault, input = .str s ∧ c.gate? (trim s.toList) = none ∧
        (compute evaluators (trim s.toList)).result = .error fault
  unbroken : ∀ p report, Primitives.Documented p →
    (∀ text, ∃ value?, ((Evaluators.attempting p report).exact text).result = .ok value?) ∧
    (∀ text, ∃ value?, ((Evaluators.attempting p report).rounded text).result = .ok value?) ∧
    ∀ input, (c.evaluateWith (.attempting p report) input).result.error? ≠ some .evaluationError
  standard : Primitives.standard.Documented ∧
    ∀ report, Evaluators.attempting .standard report = .own
  own_unbroken : ∀ input, (c.evaluate input).error? ≠ some .evaluationError
  failed_iff : ∀ s, c.gate? (trim s.toList) = none →
    ((c.evaluate (.str s)).error? = some .evaluationFailed ↔
      (¬ ∃ tree, Expr.InGrammar (trim s.toList) tree) ∧
        (exactResult (trim s.toList)).result = none)
  invalid_iff : ∀ s, c.gate? (trim s.toList) = none →
    ((c.evaluate (.str s)).error? = some .invalidResult ↔
      (exactResult (trim s.toList)).result = none ∧
        ∃ tree, Expr.InGrammar (trim s.toList) tree ∧ tree.rounded.isFinite = false)

/-- With evaluators of any kind an envelope comes out, and a breakdown in it is one of the evaluators.
All that can be in the way is a limit of more digits than can be written, if a text is longer than
that; then the wording of the failure is raised. The calculator's own evaluators break nothing down,
and neither do others like them, as long as the operations they use raise only where they are
documented to. Behind the gates, what has no exact value fails if it is not in the grammar, and is
invalid if it is but has a value that is not finite. -/
theorem evaluate_classifies_failures (c : Calculator) : c.ClassifiesFailures where
  raises_iff := tryEvaluateWith_eq_error_iff
  returns evaluators _ := tryEvaluateWith_eq_ok evaluators
  broken_iff evaluators := evaluationError_iff evaluators c
  unbroken _ report documented := ⟨exists_exact_attempting report,
    exists_rounded_attempting documented report,
    error?_attempting_ne_evaluationError documented report c⟩
  standard := ⟨Primitives.standard_documented, attempting_standard⟩
  own_unbroken input := by
    have standard := error?_attempting_ne_evaluationError Primitives.standard_documented
      (fun _ => ⟨.runtime, []⟩) c input
    rwa [attempting_standard] at standard
  failed_iff _ := evaluationFailed_iff
  invalid_iff _ := invalidResult_iff

/-- A remainder by zero is invalid, and nothing is raised on the way; `1++` is no expression. -/
theorem evaluate_classifies_failures_remainder_by_zero :
    Primitives.standard.Documented ∧
    ((ofLimit none).evaluateWith (.attempting .standard fun _ => ⟨.lookup, []⟩)
      (.str "5 % 0")).result.error? ≠ some .evaluationError ∧
    ((ofLimit none).gate? (trim "5 % 0".toList) = none ∧
      ((ofLimit none).evaluate (.str "5 % 0")).error? = some .invalidResult) ∧
    ((ofLimit none).gate? (trim "1++".toList) = none ∧
      ((ofLimit none).evaluate (.str "1++")).error? = some .evaluationFailed) := by
  have classified := evaluate_classifies_failures (ofLimit none)
  have documented := classified.standard.1
  refine ⟨documented, (classified.unbroken .standard _ documented).2.2 _, ?_, ?_⟩
  · have passes : (ofLimit none).gate? (trim "5 % 0".toList) = none := by decide +kernel
    have inexact : (exactResult (trim "5 % 0".toList)).result = none := by decide +kernel
    have parsed : Expr.parse (trim "5 % 0".toList) = .ok (.binary .rem
        (.number (.integer ⟨5, []⟩)) (.number (.integer ⟨0, []⟩))) := by decide +kernel
    exact ⟨passes, (classified.invalid_iff _ passes).2
      ⟨inexact, _, Expr.inGrammar_iff.2 parsed, by decide +kernel⟩⟩
  · have passes : (ofLimit none).gate? (trim "1++".toList) = none := by decide +kernel
    have inexact : (exactResult (trim "1++".toList)).result = none := by decide +kernel
    have refused : Expr.parse (trim "1++".toList) = .error .unexpectedEnd := by decide +kernel
    refine ⟨passes, (classified.failed_iff _ passes).2 ⟨?_, inexact⟩⟩
    rintro ⟨tree, grammatical⟩
    rw [Expr.inGrammar_iff, refused] at grammatical
    cases grammatical

/-- Any text is longer than a limit below zero, and one of a digit too many cannot be told. -/
theorem tryRun_of_long_limit :
    let c : Calculator := ⟨-(10 ^ Text.Digits.maxRun)⟩
    c.IsTooLong (.str "1+1") ∧ (c.tryRun (.str "1+1")).result = .error .unwritten := by
  intro c
  have positive : (0 : Int) < 10 ^ Text.Digits.maxRun := Int.pow_pos (by decide)
  have below : c.maxLength < 0 := by
    show -(10 ^ Text.Digits.maxRun : Int) < 0
    omega
  have unwritten : c.HasUnwrittenLimit := by
    show 10 ^ Text.Digits.maxRun ≤ (-(10 ^ Text.Digits.maxRun : Int)).natAbs
    simp [Int.natAbs_pow]
  have long : c.IsTooLong (.str "1+1") := ⟨_, rfl, by decide, below.trans (by decide)⟩
  exact ⟨long, (tryEvaluateWith_eq_error_iff .own _ _).2 ⟨long, unwritten, rfl⟩⟩

end Calculator

end Reckoner
