import Reckoner.Proofs.Evaluation.Exact

/-!
# Which evaluator answers

A calculator looks at the characters of a text before it picks an evaluator, the exact evaluator
drops the blanks before it parses, and then looks for operators that it cannot compute. None of this
changes an outcome:

* without its blanks a text that parses has the same tree, `evaluators_agree_on_tree`,
* the looks only save work, `shortcuts_change_nothing`.
-/

namespace Reckoner

open Text (isBlank squeeze trim)

/-! ## Blanks -/

theorem filter_dropWhile {α : Type} (p : α → Bool) (l : List α) :
    (l.dropWhile p).filter (!p ·) = l.filter (!p ·) := by
  induction l with
  | nil => rfl
  | cons a l ih =>
    cases drop : p a with
    | true => simp [drop, ih]
    | false => simp [drop]

theorem squeeze_trim (text : List Char) : squeeze (trim text) = squeeze text := by
  simp only [squeeze, trim, Text.stripEnds, List.filter_reverse, filter_dropWhile,
    List.reverse_reverse]

namespace Expr

/-- A text that parses is spelled out by what its tree derives from. -/
theorem exists_derives_of_parse {text : List Char} {tree : Expr} (parsed : parse text = .ok tree) :
    ∃ lexemes depth, depth ≤ maxNesting ∧ Derives .sum lexemes tree depth ∧
      squeeze text = lexemes.flatMap Lexeme.chars := by
  obtain ⟨tokens, cut, parsed⟩ := parse_eq_ok.1 parsed
  obtain ⟨depth, bound, derives⟩ := ofTokens?_eq_ok_iff_derives.1 parsed
  exact ⟨_, depth, bound, derives, squeeze_of_tokenizeFrom cut⟩

/-- The grammar lets no lexemes stand side by side that could be joined. -/
theorem parse_of_derives {lexemes : List Lexeme} {tree : Expr} {depth : Nat}
    (bound : depth ≤ maxNesting) (derives : Derives .sum lexemes tree depth) :
    parse (lexemes.flatMap Lexeme.chars) = .ok tree := by
  obtain ⟨tokens, cut, rfl⟩ := tokenizeFrom_written derives.framed.chain 0
  exact parse_eq_ok.2 ⟨tokens, cut, ofTokens?_eq_ok_iff_derives.2 ⟨depth, bound, derives⟩⟩

/-- Dropping the blanks joins no two lexemes of a text that parses. -/
theorem parse_squeeze {text : List Char} {tree : Expr} (parsed : parse text = .ok tree) :
    parse (squeeze text) = .ok tree := by
  obtain ⟨lexemes, depth, bound, derives, spelled⟩ := exists_derives_of_parse parsed
  rw [spelled]
  exact parse_of_derives bound derives

end Expr

/-! ## Characters -/

/-- A text with a point, a slash or a hat anywhere has no exact value. -/
theorem not_leadsOut_of_exactValue {text : List Char} {value : Value}
    (exact : exactValue text = .ok value) {c : Char} (member : c ∈ text) :
    Expr.leadsOut c = false := by
  cases blank : isBlank c with
  | true =>
    by_contra leads
    simp only [Expr.leadsOut, Bool.not_eq_false, Bool.or_eq_true, beq_iff_eq] at leads
    rcases leads with (rfl | rfl) | rfl <;> revert blank <;> decide
  | false =>
    obtain ⟨tree, parsed, valued⟩ := exactValue_eq_ok.1 exact
    obtain ⟨lexemes, depth, _, derives, same⟩ := Expr.exists_derives_of_parse parsed
    -- The character is one of a lexeme that is no parenthesis, hence one of the tree.
    have kept : c ∈ squeeze (squeeze text) := by simp [squeeze, member, blank]
    rw [same] at kept
    obtain ⟨lexeme, written, spelled⟩ := List.mem_flatMap.1 kept
    by_cases parenthesis : lexeme.isParenthesis = true
    · cases lexeme with
      | number _ | op _ => cases parenthesis
      | opening | closing =>
        obtain rfl := List.mem_singleton.1 spelled
        rfl
    · have inTree : lexeme ∈ tree.inorder := by
        rw [← derives.inorder_eq]
        exact List.mem_filter.2 ⟨written, by simpa using parenthesis⟩
      unfold Expr.exactValue at valued
      split at valued
      · cases valued
      · rename_i z exact
        exact Expr.not_leadsOut_of_exact exact inTree spelled

/-! ## Routes -/

theorem exactResult_of_parse {text : List Char} {tree : Expr}
    (parsed : Expr.parse (squeeze text) = .ok tree) :
    (exactResult text).result = tree.exactValue.toOption := by
  rw [exactResult_result]
  apply Option.ext
  intro value
  have same : exactValue text = .ok value ↔ tree.exactValue = .ok value := by
    simp [exactValue_eq_ok, parsed]
  rw [toOption_eq_some, toOption_eq_some, same]

theorem roundedResult_of_parse {text : List Char} {tree : Expr}
    (parsed : Expr.parse text = .ok tree) :
    (roundedResult text).result = some (normalize tree.rounded) := by
  rw [roundedResult_result, roundedValue, parsed]
  rfl

theorem roundedResult_of_error {text : List Char} {error : SyntaxError}
    (refused : Expr.parse text = .error error) : (roundedResult text).result = none := by
  rw [roundedResult_result, roundedValue, refused]
  rfl

theorem roundedResult_eq_some {text : List Char} {value : Value} :
    (roundedResult text).result = some value ↔
      ∃ tree, Expr.parse text = .ok tree ∧ value = normalize tree.rounded := by
  cases parsed : Expr.parse text with
  | error error => simp [roundedResult_of_error parsed]
  | ok tree => simp [roundedResult_of_parse parsed, eq_comm]

theorem compute_result (text : List Char) :
    (Calculator.compute .own text).result =
      .ok (if Calculator.usesExact text then
          (exactResult text).result.or (roundedResult text).result
        else (roundedResult text).result) := by
  unfold Calculator.compute
  by_cases uses : Calculator.usesExact text = true
  · cases exact : (exactResult text).result with
    | none => simp [uses, Evaluators.own, exact]
    | some value => simp [uses, Evaluators.own, exact]
  · simp [uses, Evaluators.own]

theorem exactResult_eq_none {text : List Char} {c : Char} (member : c ∈ text)
    (leads : Expr.leadsOut c = true) : (exactResult text).result = none := by
  rw [exactResult_result]
  cases exact : exactValue text with
  | error why => rfl
  | ok value =>
    rw [not_leadsOut_of_exactValue exact member] at leads
    cases leads

theorem usesExact_eq_false {text : List Char} (unused : Calculator.usesExact text ≠ true) :
    ∃ c ∈ text, Expr.leadsOut c = true := by
  by_cases point : '.' ∈ text
  · exact ⟨'.', point, rfl⟩
  · by_cases slash : '/' ∈ text
    · exact ⟨'/', slash, rfl⟩
    · exact absurd (by simp [Calculator.usesExact, point, slash]) unused

theorem compute_eq_or (text : List Char) :
    (Calculator.compute .own text).result =
      .ok ((exactResult text).result.or (roundedResult text).result) := by
  rw [compute_result]
  split
  · rfl
  · rename_i unused
    obtain ⟨c, member, leads⟩ := usesExact_eq_false unused
    rw [exactResult_eq_none member leads, Option.none_or]

/-! ## Main results -/

/-- Whenever a text parses, the exact evaluator has computed the same tree from the text without its
blanks, and when it has no value, that tree is what the rounded evaluator goes on with. All that can
go wrong on the way from one to the other is that the text, blanks and all, does not parse. -/
theorem evaluators_agree_on_tree (text : List Char) :
    (∀ tree, Expr.parse text = .ok tree → Expr.parse (squeeze text) = .ok tree) ∧
    (∀ value, (roundedResult text).result = some value →
      ∃ tree, Expr.parse text = .ok tree ∧ Expr.parse (squeeze text) = .ok tree ∧
        value = normalize tree.rounded ∧
        (exactResult text).result = tree.exactValue.toOption) ∧
    ((exactResult text).result = none →
      ((∃ error, Expr.parse text = .error error) ∧
        (Calculator.compute .own text).result = .ok none) ∨
      (∃ tree, Expr.parse text = .ok tree ∧ Expr.parse (squeeze text) = .ok tree ∧
        (Calculator.compute .own text).result = .ok (some (normalize tree.rounded)))) := by
  refine ⟨fun tree => Expr.parse_squeeze, ?_, ?_⟩
  · intro value rounded
    cases parsed : Expr.parse text with
    | error error =>
      rw [roundedResult_of_error parsed] at rounded
      cases rounded
    | ok tree =>
      rw [roundedResult_of_parse parsed] at rounded
      cases rounded
      have squeezed := Expr.parse_squeeze parsed
      exact ⟨tree, rfl, squeezed, rfl, exactResult_of_parse squeezed⟩
  · intro exact
    rw [compute_eq_or, exact, Option.none_or]
    cases parsed : Expr.parse text with
    | error error => exact .inl ⟨⟨error, rfl⟩, by rw [roundedResult_of_error parsed]⟩
    | ok tree =>
      exact .inr ⟨tree, rfl, Expr.parse_squeeze parsed, by rw [roundedResult_of_parse parsed]⟩

/-- A power with a negative exponent and blanks in it has no exact value and one half as a rounded
one. -/
theorem evaluators_agree_on_tree_spaced_power :
    Expr.parse (squeeze "2 ** - 1".toList) =
      .ok (.binary .pow (.number (.integer ⟨2, []⟩)) (.signed .minus (.number (.integer ⟨1, []⟩)))) ∧
    (∃ tree, Expr.parse "2 ** - 1".toList = .ok tree ∧
      (exactResult "2 ** - 1".toList).result = tree.exactValue.toOption) ∧
    (∃ tree, Expr.parse (squeeze "2 ** - 1".toList) = .ok tree ∧
      (Calculator.compute .own "2 ** - 1".toList).result = .ok (some (normalize tree.rounded))) := by
  have parsed : Expr.parse "2 ** - 1".toList = .ok (.binary .pow (.number (.integer ⟨2, []⟩))
      (.signed .minus (.number (.integer ⟨1, []⟩)))) := by decide +kernel
  have squeezed := (evaluators_agree_on_tree "2 ** - 1".toList).1 _ parsed
  have exact : (exactResult "2 ** - 1".toList).result = none := by
    rw [exactResult_of_parse squeezed]
    rfl
  refine ⟨squeezed, ?_, ?_⟩
  · obtain ⟨tree, parsed', _, _, value⟩ :=
      (evaluators_agree_on_tree "2 ** - 1".toList).2.1 _ (roundedResult_of_parse parsed)
    exact ⟨tree, parsed', value⟩
  · rcases (evaluators_agree_on_tree "2 ** - 1".toList).2.2 exact with
      ⟨⟨error, refused⟩, _⟩ | ⟨tree, _, squeezed', value⟩
    · rw [parsed] at refused
      cases refused
    · exact ⟨tree, squeezed', value⟩

/-- The exact value of a text, computed without a look for operators that lead out of the
integers. -/
def exactValueUnscanned (text : List Char) : Except Refusal Value :=
  match Expr.parse (squeeze text) with
  | .error e => .error (.malformed e)
  | .ok tree => tree.exactValue

/-- No look at the text or at its operators changes an outcome. -/
theorem shortcuts_change_nothing (text : List Char) :
    ('.' ∈ text ∨ '/' ∈ text ∨ '^' ∈ text → (exactResult text).result = none) ∧
    (Calculator.compute .own text).result =
      .ok ((exactResult text).result.or (roundedResult text).result) ∧
    (exactResult text).result = (exactValueUnscanned text).toOption := by
  refine ⟨?_, compute_eq_or text, ?_⟩
  · rintro (point | slash | hat)
    · exact exactResult_eq_none point rfl
    · exact exactResult_eq_none slash rfl
    · exact exactResult_eq_none hat rfl
  · unfold exactValueUnscanned
    cases parsed : Expr.parse (squeeze text) with
    | ok tree => exact exactResult_of_parse parsed
    | error error =>
      rw [exactResult_result, exactValue, parsed]

/-- A text with a hat has no exact value, whatever else is wrong with it. -/
theorem shortcuts_change_nothing_remainder_of_hat :
    '^' ∈ "5 % 0 ^ 2".toList ∧ (exactResult "5 % 0 ^ 2".toList).result = none := by
  have hat : '^' ∈ "5 % 0 ^ 2".toList := by decide
  exact ⟨hat, (shortcuts_change_nothing "5 % 0 ^ 2".toList).1 (.inr (.inr hat))⟩

end Reckoner
