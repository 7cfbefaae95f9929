import Reckoner.Proofs.Evaluation.Failures
import Reckoner.Proofs.Evaluation.Levels

/-!
# Candidates and gates

A text is screened before it is evaluated, and the gates of a calculator look at it again with other
tests. They are consistent, `Calculator.candidates_pass_gates`:

* a candidate passes all gates but the one that is about its length, and behind them it breaks down
  only if it `Founders`, for which a long sum is enough, `Calculator.tryEvaluateWith_digitSum`,
* a text that is evaluated was a candidate, unless it is a plus sign before a single digit. Such a
  text is too short for an operation, and a bare number has no plus sign.

The second half rests on what is known of a text that parses: it has a digit in it,
`exists_digit_of_parse`, no operator in front but a sign, `front_of_parse`, and none at the end,
`back_of_parse`. So a digit with a sign is the only one that has an operator and is too short.
-/

namespace Reckoner

open Text (Digit isBlank isDigit squeeze trim)
open Screen (isCandidate isOperator)

/-! ## Characters of texts that parse -/

theorem Text.isDigit_toChar (d : Digit) : isDigit d.toChar = true := by
  simp [isDigit, Digit.ofChar?_toChar]

theorem Text.mem_of_mem_squeeze {c : Char} {text : List Char} (kept : c ∈ squeeze text) :
    c ∈ text :=
  (List.mem_filter.1 kept).1

theorem Screen.isOperator_toChar : ∀ d : Digit, isOperator d.toChar = false := by
  decide

theorem Screen.isBlank_of_isOperator {c : Char} (operator : isOperator c = true) :
    isBlank c = false := by
  simp only [isOperator, Bool.or_eq_true, beq_iff_eq] at operator
  rcases operator with ((((rfl | rfl) | rfl) | rfl) | rfl) | rfl <;> decide

namespace Numeral

theorem exists_digit (n : Numeral) : ∃ d : Digit, d.toChar ∈ n.chars := by
  cases n with
  | integer whole => exact ⟨whole.first, List.mem_cons_self⟩
  | mixed whole behind => exact ⟨whole.first, List.mem_cons_self⟩
  | fraction behind => exact ⟨behind.first, List.mem_cons_of_mem _ List.mem_cons_self⟩

theorem eq_point_or_digit {n : Numeral} {c : Char} (member : c ∈ n.chars) :
    c = '.' ∨ ∃ d : Digit, c = d.toChar := by
  have digit : ∀ {ds : List Digit}, c ∈ Text.Digits.chars ds → ∃ d : Digit, c = d.toChar := by
    intro ds spelled
    obtain ⟨d, _, same⟩ := List.mem_map.1 spelled
    exact ⟨d, same.symm⟩
  cases n with
  | integer whole => exact .inr (digit member)
  | mixed whole behind =>
    rcases List.mem_append.1 member with spelled | spelled
    · exact .inr (digit spelled)
    · exact (List.mem_cons.1 spelled).imp_right digit
  | fraction behind => exact (List.mem_cons.1 member).imp_right digit

theorem not_isOperator_of_mem_chars {n : Numeral} {c : Char} (member : c ∈ n.chars) :
    isOperator c = false := by
  rcases eq_point_or_digit member with rfl | ⟨d, rfl⟩
  · decide
  · exact Screen.isOperator_toChar d

end Numeral

namespace Lexeme

variable {lexeme : Lexeme} {c : Char}

/-- Of the operators only a sign is in front of a construct. -/
theorem isSign_of_starts (starts : lexeme.startsConstruct = true) {tail : List Char}
    (spelled : lexeme.chars = c :: tail) (operator : isOperator c = true) : c = '+' ∨ c = '-' := by
  cases lexeme with
  | number n =>
    have member : c ∈ n.chars := by
      rw [show n.chars = c :: tail from spelled]
      exact List.mem_cons_self
    cases (Numeral.not_isOperator_of_mem_chars member).symm.trans operator
  | op o =>
    cases o with
    | add => cases spelled; exact .inl rfl
    | sub => cases spelled; exact .inr rfl
    | mul | div | rem | hat | pow => cases starts
  | opening =>
    cases spelled
    cases operator
  | closing => cases starts

theorem not_isOperator_of_ends (ends : lexeme.endsConstruct = true) (member : c ∈ lexeme.chars) :
    isOperator c = false := by
  cases lexeme with
  | number n => exact Numeral.not_isOperator_of_mem_chars member
  | closing =>
    obtain rfl := List.mem_singleton.1 member
    decide
  | op _ | opening => cases ends

end Lexeme

namespace Expr

theorem exists_number_mem_inorder (tree : Expr) : ∃ n, Lexeme.number n ∈ tree.inorder := by
  induction tree with
  | number numeral => exact ⟨numeral, List.mem_singleton_self _⟩
  | signed sign operand ih =>
    obtain ⟨n, member⟩ := ih
    exact ⟨n, List.mem_cons_of_mem _ member⟩
  | binary o left right ihl _ =>
    obtain ⟨n, member⟩ := ihl
    exact ⟨n, List.mem_append_left _ member⟩

section Parsed

variable {text : List Char} {tree : Expr} (parsed : parse text = .ok tree)

include parsed

theorem exists_digit_of_parse : ∃ d : Digit, d.toChar ∈ text := by
  obtain ⟨lexemes, depth, _, derives, spelled⟩ := exists_derives_of_parse parsed
  obtain ⟨n, member⟩ := tree.exists_number_mem_inorder
  obtain ⟨d, inNumeral⟩ := n.exists_digit
  rw [← derives.inorder_eq] at member
  refine ⟨d, Text.mem_of_mem_squeeze ?_⟩
  rw [spelled]
  exact List.mem_flatMap.2 ⟨.number n, (List.mem_filter.1 member).1, inNumeral⟩

/-- If a text that parses begins with an operator, it is a sign. -/
theorem front_of_parse {c : Char} {tail : List Char} (begins : squeeze text = c :: tail)
    (operator : isOperator c = true) : c = '+' ∨ c = '-' := by
  obtain ⟨lexemes, depth, _, derives, spelled⟩ := exists_derives_of_parse parsed
  obtain ⟨lexeme, head, starts⟩ := derives.framed.first
  obtain ⟨behind, rfl⟩ := List.head?_eq_some_iff.1 head
  obtain ⟨c', tail', first⟩ := List.exists_cons_of_length_pos lexeme.length_chars_pos
  rw [begins, List.flatMap_cons, first, List.cons_append] at spelled
  obtain ⟨rfl, _⟩ := List.cons.inj spelled
  exact lexeme.isSign_of_starts starts first operator

/-- A text that parses does not end with an operator. -/
theorem back_of_parse {front : List Char} {c : Char} (ends : squeeze text = front ++ [c]) :
    isOperator c = false := by
  obtain ⟨lexemes, depth, _, derives, spelled⟩ := exists_derives_of_parse parsed
  obtain ⟨lexeme, last, closes⟩ := derives.framed.last
  obtain ⟨before, rfl⟩ := List.getLast?_eq_some_iff.1 last
  have nonempty : lexeme.chars ≠ [] := List.ne_nil_of_length_pos lexeme.length_chars_pos
  rw [ends, List.flatMap_append, List.flatMap_singleton,
    ← List.dropLast_concat_getLast nonempty, ← List.append_assoc] at spelled
  obtain ⟨_, same⟩ := List.append_inj' spelled rfl
  rw [List.singleton_inj.1 same]
  exact lexeme.not_isOperator_of_ends closes (List.getLast_mem nonempty)

end Parsed

end Expr

/-! ## The shortest texts -/

namespace Screen

/-- A text that is too short for an operation, has an operator and parses is a digit with a sign. -/
theorem eq_signed_digit_of_parse {text : List Char} {tree : Expr}
    (parsed : Expr.parse (squeeze text) = .ok tree) (operator : text.any isOperator = true)
    (short : text.length < minOperationLength) :
    ∃ d : Digit, text = ['+', d.toChar] ∨ text = ['-', d.toChar] := by
  obtain ⟨o, member, operates⟩ := List.any_eq_true.1 operator
  obtain ⟨d, kept⟩ := Expr.exists_digit_of_parse parsed
  have member' := Text.mem_of_mem_squeeze kept
  have other : o ≠ d.toChar := by
    rintro rfl
    rw [isOperator_toChar d] at operates
    cases operates
  refine ⟨d, ?_⟩
  match text, short with
  | [], _ => cases member
  | [a], _ =>
    exact absurd ((List.mem_singleton.1 member).trans (List.mem_singleton.1 member').symm) other
  | [a, b], _ =>
    rcases List.mem_pair.1 member with rfl | rfl
    · obtain rfl := (List.mem_pair.1 member').resolve_left other.symm
      have solid : squeeze (squeeze [o, d.toChar]) = [o, d.toChar] := by
        simp [squeeze, isBlank_of_isOperator operates, Text.isBlank_toChar]
      rcases Expr.front_of_parse parsed solid operates with rfl | rfl
      · exact .inl rfl
      · exact .inr rfl
    · obtain rfl := (List.mem_pair.1 member').resolve_right other.symm
      have solid : squeeze (squeeze [d.toChar, o]) = [d.toChar] ++ [o] := by
        simp [squeeze, isBlank_of_isOperator operates, Text.isBlank_toChar]
      cases (Expr.back_of_parse parsed solid).symm.trans operates

theorem isBareNumber_minus_digit : ∀ d : Digit, isBareNumber ['-', d.toChar] = true := by
  decide

end Screen

namespace Calculator

/-! ## Gates -/

theorem gate?_eq_none_iff {c : Calculator} {text : List Char} :
    c.gate? text = none ↔
      text ≠ [] ∧ (text.length : Int) ≤ c.maxLength ∧ Screen.hasAllowedCharacters text = true ∧
        Screen.looksLikeExpression text = true := by
  rw [gate?_eq]
  split_ifs <;> simp_all

/-- When a text is evaluated: it passes the gates, and one of the evaluators has a value for it that
is finite. -/
theorem evaluate_eq_success_iff {c : Calculator} {s : String} {value : Value}
    {detail : Option String} :
    c.evaluate (.str s) = .success value detail ↔
      c.gate? (trim s.toList) = none ∧
        (exactResult (trim s.toList)).result.or (roundedResult (trim s.toList)).result =
          some value ∧
        value.isUnbounded = false ∧ detail = none := by
  cases gate : c.gate? (trim s.toList) with
  | some envelope =>
    rcases evaluateWith_cases .own c (.str s) with ⟨_, same, passes⟩ | ⟨kind, detail', failure, _⟩
    · cases same
      cases gate.symm.trans passes
    · simp [evaluate, run, failure]
  | none =>
    have concluded := evaluateWith_of_gate .own gate
    rw [compute_eq_or] at concluded
    rw [evaluate, run, concluded]
    constructor
    · intro success
      obtain ⟨computed, bounded⟩ := conclude_eq_success success
      rw [computed] at success
      simp only [conclude, bounded, Logged.result_pure] at success
      cases success
      exact ⟨rfl, Except.ok.inj computed, bounded, rfl⟩
    · rintro ⟨_, computed, bounded, rfl⟩
      simp only [computed, conclude, bounded, Logged.result_pure]
      rfl

/-- What is evaluated parses once its blanks are removed. -/
theorem exists_parse_of_success {c : Calculator} {s : String} {value : Value}
    {detail : Option String} (success : c.evaluate (.str s) = .success value detail) :
    ∃ tree, Expr.parse (squeeze (trim s.toList)) = .ok tree := by
  obtain ⟨_, computed, _⟩ := evaluate_eq_success_iff.1 success
  rcases Option.or_eq_some_iff.1 computed with exact | ⟨_, rounded⟩
  · obtain ⟨tree, _, parsed, _⟩ := exactResult_eq_some.1 exact
    exact ⟨tree, parsed⟩
  · obtain ⟨tree, parsed, _⟩ := roundedResult_eq_some.1 rounded
    exact ⟨tree, Expr.parse_squeeze parsed⟩

/-! ## Candidates -/

section Candidates

variable {c : Calculator} {s : String}

theorem ne_nil_of_isCandidate (candidate : isCandidate s.toList = true) : trim s.toList ≠ [] := by
  intro empty
  simp [isCandidate, empty] at candidate

theorem gate?_of_isCandidate (candidate : isCandidate s.toList = true)
    (short : ((trim s.toList).length : Int) ≤ c.maxLength) : c.gate? (trim s.toList) = none := by
  have nonempty := ne_nil_of_isCandidate candidate
  simp only [isCandidate, Bool.and_eq_true, Bool.or_eq_true, decide_eq_true_eq] at candidate
  obtain ⟨⟨allowed, _⟩, shape⟩ := candidate
  refine gate?_eq_none_iff.2 ⟨nonempty, short, allowed, ?_⟩
  simp only [Screen.looksLikeExpression, Bool.or_eq_true]
  exact shape.imp_left And.left

/-- Behind the gates only what the evaluators make of a text can fail. -/
theorem error?_of_gate (passes : c.gate? (trim s.toList) = none) {kind : ErrorKind}
    (failed : (c.evaluate (.str s)).error? = some kind) :
    kind = .evaluationFailed ∨ kind = .invalidResult := by
  rw [error?_evaluate passes] at failed
  split at failed
  · exact .inl (Option.some.inj failed).symm
  · split at failed
    · exact .inr (Option.some.inj failed).symm
    · cases failed

/-- A text that is evaluated passes all tests of a candidate but perhaps the one for its length. -/
theorem isCandidate_of_success {value : Value} {detail : Option String}
    (success : c.evaluate (.str s) = .success value detail)
    (unsigned : ¬ ∃ d : Digit, trim s.toList = ['+', d.toChar]) : isCandidate s.toList = true := by
  obtain ⟨_, _, allowed, shape⟩ := gate?_eq_none_iff.1 (evaluate_eq_success_iff.1 success).1
  obtain ⟨tree, parsed⟩ := exists_parse_of_success success
  have digit : (trim s.toList).any isDigit = true := by
    obtain ⟨d, kept⟩ := Expr.exists_digit_of_parse parsed
    exact List.any_eq_true.2 ⟨d.toChar, Text.mem_of_mem_squeeze kept, Text.isDigit_toChar d⟩
  simp only [isCandidate, allowed, digit, Bool.true_and, Bool.or_eq_true, Bool.and_eq_true,
    decide_eq_true_eq]
  simp only [Screen.looksLikeExpression, Bool.or_eq_true] at shape
  rcases shape with operator | bare
  · by_cases short : (trim s.toList).length < Screen.minOperationLength
    · obtain ⟨d, plus | minus⟩ := Screen.eq_signed_digit_of_parse parsed operator short
      · exact absurd ⟨d, plus⟩ unsigned
      · rw [minus]
        exact .inr (Screen.isBareNumber_minus_digit d)
    · exact .inl ⟨operator, Nat.le_of_not_lt short⟩
  · exact .inr bare

end Candidates

end Calculator

/-! ## A plus sign before a digit -/

namespace Screen

theorem isCandidate_plus_digit {text : List Char} {d : Digit}
    (signed : trim text = ['+', d.toChar]) : isCandidate text = false := by
  have never : ∀ d : Digit, isBareNumber ['+', d.toChar] = false := by decide
  simp [isCandidate, signed, minOperationLength, never d]

end Screen

namespace Calculator

theorem evaluate_plus_digit {c : Calculator} {s : String} {d : Digit}
    (signed : trim s.toList = ['+', d.toChar]) (short : 2 ≤ c.maxLength) :
    c.evaluate (.str s) = .ok (.integer d.val) := by
  have screened : ∀ d : Digit, Screen.hasAllowedCharacters ['+', d.toChar] = true ∧
      Screen.looksLikeExpression ['+', d.toChar] = true := by decide
  have valued : ∀ d : Digit,
      (exactResult ['+', d.toChar]).result = some (.integer d.val) := by decide +kernel
  refine evaluate_eq_success_iff.2 ⟨gate?_eq_none_iff.2 ?_, ?_, rfl, rfl⟩
  · rw [signed]
    exact ⟨List.cons_ne_nil _ _, short, screened d⟩
  · rw [signed, valued d, Option.some_or]

/-! ## Outcomes -/

/-- An envelope comes out, which is a failure of some kind. -/
def FailsWith (outcome : Except Fault Envelope) (kind : ErrorKind) : Prop :=
  ∃ detail, outcome = .ok (.failure kind detail)

section Outcomes

variable {c : Calculator} {levels : Nat} {s : String}

theorem failsWith_ok_iff {envelope : Envelope} {kind : ErrorKind} :
    FailsWith (.ok envelope) kind ↔ envelope.error? = some kind := by
  cases envelope <;> simp [FailsWith, Envelope.error?]

theorem tryEvaluateWith_of_long (evaluators : Evaluators) (long : c.IsTooLong (.str s)) :
    (c.tryEvaluateWith evaluators (.str s)).result = c.tooLong := by
  obtain ⟨_, same, nonempty, long⟩ := long
  cases same
  have given : s ≠ "" := by
    rintro rfl
    exact nonempty rfl
  have gated : c.gate (trim s.toList) = c.tooLong.map some := by simp [gate, nonempty, long]
  unfold tryEvaluateWith
  simp only [given, if_false, gated]
  cases c.tooLong <;> rfl

theorem tooLong_eq_error_iff : (∃ fault, c.tooLong = .error fault) ↔ c.HasUnwrittenLimit := by
  rw [← display?_maxLength_eq_none_iff]
  unfold tooLong
  cases (Value.integer c.maxLength).display? <;> simp

theorem failsWith_tooLong_iff {kind : ErrorKind} :
    FailsWith c.tooLong kind ↔ kind = .invalidInput ∧ ¬c.HasUnwrittenLimit := by
  rw [← display?_maxLength_eq_none_iff]
  unfold tooLong FailsWith
  cases (Value.integer c.maxLength).display? <;> simp [eq_comm]

/-- Behind the gates a text that founders is reported as a breakdown. -/
theorem tryEvaluateWith_of_founders (passes : c.gate? (trim s.toList) = none)
    (founders : Founders levels (trim s.toList)) :
    (c.tryEvaluateWith (.within levels) (.str s)).result =
      .ok (.failure .evaluationError (some Fault.tooDeep.detail)) := by
  rw [tryEvaluateWith_of_gate _ passes]
  simp only [Logged.result_bind, compute_within_of_founders founders]
  rfl

theorem tryEvaluateWith_of_not_founders (passes : c.gate? (trim s.toList) = none)
    (through : ¬Founders levels (trim s.toList)) :
    (c.tryEvaluateWith (.within levels) (.str s)).result = .ok (c.evaluate (.str s)) := by
  rw [tryEvaluateWith_of_gate _ passes, evaluate, run, evaluateWith_of_gate _ passes,
    compute_within through]
  rfl

/-- What is evaluated within some levels is evaluated without a bound. -/
theorem evaluate_of_within {value : Value} {detail : Option String}
    (success : (c.tryEvaluateWith (.within levels) (.str s)).result = .ok (.success value detail)) :
    c.evaluate (.str s) = .success value detail := by
  cases gated : c.gate? (trim s.toList) with
  | none =>
    by_cases founders : Founders levels (trim s.toList)
    · -- A breakdown is no success.
      rw [tryEvaluateWith_of_founders gated founders] at success
      cases success
    · rw [tryEvaluateWith_of_not_founders gated founders] at success
      exact Except.ok.inj success
  | some envelope =>
    have told : (c.evaluateWith (.within levels) (.str s)).result = .success value detail := by
      rw [evaluateWith, Logged.result_bind, success]
      rfl
    rcases evaluateWith_cases (.within levels) c (.str s) with
      ⟨_, same, passes⟩ | ⟨kind, detail', failure, _⟩
    · cases same
      cases gated.symm.trans passes
    · cases failure.symm.trans told

end Outcomes

/-! ## Sums that break down -/

section Sums

variable (d : Digit) (more : Nat)

theorem trim_digitSum : trim (Expr.digitSum d more).print = (Expr.digitSum d more).print :=
  Text.stripEnds_of_forall fun _ => Expr.isBlank_of_mem_print

theorem isCandidate_digitSum : isCandidate (Expr.digitSum d (more + 1)).print = true := by
  have printed := Expr.print_digitSum d (more + 1)
  rw [List.replicate_succ, List.flatten_cons] at printed
  have digit : isDigit d.toChar = true := Text.isDigit_toChar d
  have allowed : (Expr.digitSum d (more + 1)).print.all Screen.isAllowed = true := by
    refine List.all_eq_true.2 fun c member => ?_
    rcases Expr.eq_digit_or_plus_of_mem_print member with rfl | rfl
    · simp [Screen.isAllowed, digit]
    · decide
  rw [isCandidate, trim_digitSum, Screen.hasAllowedCharacters, allowed, printed]
  simp [digit, isOperator, Screen.minOperationLength]

variable {d more}

/-- Whatever the number of levels, a sum of more digits than that breaks down, as far as the limit lets
it pass. -/
theorem tryEvaluateWith_digitSum {c : Calculator} {levels : Nat} (few : levels ≤ more + 1)
    (fits : ((Expr.digitSum d (more + 1)).print.length : Int) ≤ c.maxLength) :
    (c.tryEvaluateWith (.within levels) (.str (.ofList (Expr.digitSum d (more + 1)).print))).result =
      .ok (.failure .evaluationError (some Fault.tooDeep.detail)) := by
  have printed : (String.ofList (Expr.digitSum d (more + 1)).print).toList =
      (Expr.digitSum d (more + 1)).print := String.toList_ofList
  refine tryEvaluateWith_of_founders (gate?_of_isCandidate ?_ ?_) ?_
  · rw [printed]
    exact isCandidate_digitSum d more
  · rw [printed, trim_digitSum]
    exact fits
  · rw [printed, trim_digitSum]
    exact founders_digitSum d few

end Sums

/-! ## Main result -/

/-- What comes out for a candidate on an interpreter with some levels. -/
structure PassesGates (c : Calculator) (levels : Nat) (s : String)
    (outcome : Except Fault Envelope) : Prop where
  passes : ∀ kind ∈ [ErrorKind.emptyInput, .invalidCharacters, .notAnExpression],
    ¬FailsWith outcome kind
  invalidInput_iff : FailsWith outcome .invalidInput ↔
    c.IsTooLong (.str s) ∧ ¬c.HasUnwrittenLimit
  raises_iff : (∃ fault, outcome = .error fault) ↔ c.IsTooLong (.str s) ∧ c.HasUnwrittenLimit
  evaluationError_iff : FailsWith outcome .evaluationError ↔
    ¬c.IsTooLong (.str s) ∧ Founders levels (trim s.toList)
  unbroken : c.maxLength ≤ levels → ¬FailsWith outcome .evaluationError

theorem passesGates_of_long {c : Calculator} {levels : Nat} {s : String}
    (long : c.IsTooLong (.str s)) : c.PassesGates levels s c.tooLong where
  passes kind member failed := by
    rw [(failsWith_tooLong_iff.1 failed).1] at member
    revert member
    decide
  invalidInput_iff := by simp [failsWith_tooLong_iff, long]
  raises_iff := by simp [tooLong_eq_error_iff, long]
  evaluationError_iff := by simp [failsWith_tooLong_iff, long]
  unbroken _ := by simp [failsWith_tooLong_iff]

theorem not_founders_of_maxLength_le {c : Calculator} {levels : Nat} {s : String}
    (nonempty : trim s.toList ≠ []) (fits : ¬c.IsTooLong (.str s)) (few : c.maxLength ≤ levels) :
    ¬Founders levels (trim s.toList) := by
  have short : ¬c.maxLength < (trim s.toList).length := fun long => fits ⟨s, rfl, nonempty, long⟩
  exact not_founders_of_length_le (by omega)

theorem passesGates_of_founders {c : Calculator} {levels : Nat} {s : String}
    (nonempty : trim s.toList ≠ []) (fits : ¬c.IsTooLong (.str s))
    (founders : Founders levels (trim s.toList)) (detail : Option String) :
    c.PassesGates levels s (.ok (.failure .evaluationError detail)) where
  passes kind member failed := by
    obtain rfl : ErrorKind.evaluationError = kind := Option.some.inj (failsWith_ok_iff.1 failed)
    revert member
    decide
  invalidInput_iff := by simp [failsWith_ok_iff, Envelope.error?, fits]
  raises_iff := by simp [fits]
  evaluationError_iff := by simp [failsWith_ok_iff, Envelope.error?, fits, founders]
  unbroken few := absurd founders (not_founders_of_maxLength_le nonempty fits few)

/-- Where nothing founders, only what the evaluators make of a text can fail. -/
theorem passesGates_of_not_founders {c : Calculator} {levels : Nat} {s : String}
    (passes : c.gate? (trim s.toList) = none) (fits : ¬c.IsTooLong (.str s))
    (through : ¬Founders levels (trim s.toList)) :
    c.PassesGates levels s (.ok (c.evaluate (.str s))) := by
  have never (kind : ErrorKind) (early : kind ∉ [.evaluationFailed, .invalidResult]) :
      ¬FailsWith (.ok (c.evaluate (.str s))) kind := by
    intro failed
    rcases error?_of_gate passes (failsWith_ok_iff.1 failed) with rfl | rfl <;>
      exact early (by decide)
  exact {
    passes := fun kind member => never kind (by revert member kind; decide)
    invalidInput_iff := by simp [never .invalidInput (by decide), fits]
    raises_iff := by simp [fits]
    evaluationError_iff := by simp [never .evaluationError (by decide), through]
    unbroken := fun _ => never .evaluationError (by decide) }

theorem passesGates_of_isCandidate (c : Calculator) (levels : Nat) {s : String}
    (candidate : isCandidate s.toList = true) :
    c.PassesGates levels s (c.tryEvaluateWith (.within levels) (.str s)).result := by
  have nonempty := ne_nil_of_isCandidate candidate
  by_cases long : c.IsTooLong (.str s)
  · rw [tryEvaluateWith_of_long _ long]
    exact passesGates_of_long long
  · have short : ((trim s.toList).length : Int) ≤ c.maxLength :=
      Int.not_lt.1 fun above => long ⟨s, rfl, nonempty, above⟩
    have passes := gate?_of_isCandidate candidate short
    by_cases founders : Founders levels (trim s.toList)
    · rw [tryEvaluateWith_of_founders passes founders]
      exact passesGates_of_founders nonempty long founders _
    · rw [tryEvaluateWith_of_not_founders passes founders]
      exact passesGates_of_not_founders passes long founders

/-- Candidates and gates are consistent. A candidate fails at a gate only if it is too long. Behind
the gates it breaks down just if the evaluation founders for want of levels, which it never does if
there are as many of them as characters are allowed. Operations that raise where they are documented
to lead to no breakdown. A text that is evaluated is a candidate, unless it is a plus sign before a
digit, which is evaluated whenever two characters are allowed. -/
theorem candidates_pass_gates (c : Calculator) (levels : Nat) (s : String) :
    let outcome := (c.tryEvaluateWith (.within levels) (.str s)).result
    (isCandidate s.toList = true →
      c.PassesGates levels s outcome ∧
      ∀ p report, Primitives.Documented p →
        (c.evaluateWith (.attempting p report) (.str s)).result.error? ≠ some .evaluationError) ∧
    (∀ value detail, outcome = .ok (.success value detail) →
      (isCandidate s.toList = true ↔ ¬ ∃ d : Digit, trim s.toList = ['+', d.toChar])) ∧
    (∀ d : Digit, trim s.toList = ['+', d.toChar] →
      isCandidate s.toList = false ∧
      (2 ≤ c.maxLength → 2 ≤ levels → outcome = .ok (.ok (.integer d.val)))) := by
  intro outcome
  refine ⟨?_, ?_, ?_⟩
  · intro candidate
    exact ⟨passesGates_of_isCandidate c levels candidate, fun p report documented =>
      error?_attempting_ne_evaluationError documented report c (.str s)⟩
  · intro value detail success
    constructor
    · rintro candidate ⟨d, signed⟩
      cases (Screen.isCandidate_plus_digit signed).symm.trans candidate
    · exact isCandidate_of_success (evaluate_of_within success)
  · intro d signed
    refine ⟨Screen.isCandidate_plus_digit signed, fun short enough => ?_⟩
    have evaluated := evaluate_plus_digit signed short
    have through : ¬Founders levels (trim s.toList) :=
      not_founders_of_length_le (by simpa [signed] using enough)
    rw [← evaluated]
    exact tryEvaluateWith_of_not_founders (evaluate_eq_success_iff.1 evaluated).1 through

/-- A malformed candidate that is too long for a calculator of two characters, a sum that founders
with two levels, a bare number with a minus sign, and a plus sign before a digit among blanks. -/
theorem candidates_pass_gates_short_texts :
    (isCandidate "1++".toList = true ∧ (⟨2⟩ : Calculator).IsTooLong (.str "1++") ∧
      FailsWith ((⟨2⟩ : Calculator).tryEvaluateWith (.within 2) (.str "1++")).result
        .invalidInput ∧
      Primitives.standard.Documented ∧
      ((⟨3⟩ : Calculator).evaluateWith (.attempting .standard fun _ => ⟨.lookup, []⟩)
        (.str "1++")).result.error? ≠ some .evaluationError) ∧
    (isCandidate "1+1+1".toList = true ∧
      FailsWith ((ofLimit none).tryEvaluateWith (.within 2) (.str "1+1+1")).result
        .evaluationError) ∧
    (((ofLimit none).tryEvaluateWith (.within 2) (.str "-7.")).result =
        .ok (.success (.integer (-7)) none) ∧
      isCandidate "-7.".toList = true) ∧
    (trim " +5 ".toList = ['+', (5 : Digit).toChar] ∧ 2 ≤ (ofLimit none).maxLength ∧
      ((ofLimit none).tryEvaluateWith (.within 2) (.str " +5 ")).result =
        .ok (.ok (.integer 5))) := by
  have candidate : isCandidate "1++".toList = true := by decide +kernel
  have long : (⟨2⟩ : Calculator).IsTooLong (.str "1++") :=
    ⟨_, rfl, by decide +kernel, by decide +kernel⟩
  have written : ¬(⟨2⟩ : Calculator).HasUnwrittenLimit := by
    rw [← display?_maxLength_eq_none_iff]
    decide +kernel
  have sum : isCandidate "1+1+1".toList = true := by decide +kernel
  have founders : Founders 2 (trim "1+1+1".toList) := by
    exact .inl ⟨by decide +kernel, by decide +kernel⟩
  have fits : ¬(ofLimit none).IsTooLong (.str "1+1+1") := by
    rintro ⟨_, same, _, long⟩
    cases same
    revert long
    decide +kernel
  have success : ((ofLimit none).tryEvaluateWith (.within 2) (.str "-7.")).result =
      .ok (.success (.integer (-7)) none) := by decide +kernel
  have unsigned : ¬ ∃ d : Digit, trim "-7.".toList = ['+', d.toChar] := by decide +kernel
  have signed : trim " +5 ".toList = ['+', (5 : Digit).toChar] := by decide +kernel
  have short : 2 ≤ (ofLimit none).maxLength := by decide
  have malformed := (candidates_pass_gates ⟨2⟩ 2 "1++").1 candidate
  have unbroken := (candidates_pass_gates ⟨3⟩ 2 "1++").1 candidate
  have broken := (candidates_pass_gates (ofLimit none) 2 "1+1+1").1 sum
  exact ⟨⟨candidate, long, malformed.1.invalidInput_iff.2 ⟨long, written⟩,
      Primitives.standard_documented, unbroken.2 .standard _ Primitives.standard_documented⟩,
    ⟨sum, broken.1.evaluationError_iff.2 ⟨fits, founders⟩⟩,
    ⟨success, ((candidates_pass_gates _ 2 "-7.").2.1 _ _ success).2 unsigned⟩,
    signed, short,
    ((candidates_pass_gates (ofLimit none) 2 " +5 ").2.2 5 signed).2 short (Nat.le_refl 2)⟩

/-- With a thousand levels and room for five thousand characters, the sum of 1501 ones is a candidate
that breaks down. -/
theorem candidate_breaks_down :
    isCandidate ('1' :: (List.replicate 1500 ['+', '1']).flatten) = true ∧
      FailsWith ((ofLimit (some 5000)).tryEvaluateWith (.within 1000)
          (.str (.ofList ('1' :: (List.replicate 1500 ['+', '1']).flatten)))).result
        .evaluationError := by
  have few : 1000 ≤ 1499 + 1 := by decide
  have fits : ((Expr.digitSum 1 (1499 + 1)).print.length : Int) ≤
      (ofLimit (some 5000)).maxLength := by
    rw [Expr.length_print_digitSum]
    decide
  have candidate := isCandidate_digitSum 1 1499
  have breaks := tryEvaluateWith_digitSum few fits
  rw [Expr.print_digitSum] at candidate breaks
  exact ⟨candidate, _, breaks⟩

end Calculator

end Reckoner
