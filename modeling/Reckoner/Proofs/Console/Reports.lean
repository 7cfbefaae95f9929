import Reckoner.Console.Session
import Reckoner.Proofs.Evaluation.Outcomes
import Reckoner.Proofs.Text.Graphic

/-!
# Reports

What the console shows of an outcome is a graphic text, so it takes a line and no more,
`Calculator.graphic_report`. As data every outcome is, since all else is escaped. The text of a
value is that of a number, and the message of a failure has a detail only if it tells the length
that an expression may have.
-/

namespace Reckoner

open Text (Graphic)

namespace Envelope

/-- Whether all that a plain report shows of an envelope is graphic. -/
def IsShowable : Envelope → Prop
  | success value _ => Graphic value.display.toList
  | failure _ detail => ∀ text, detail = some text → Graphic text.toList

theorem graphic_failureMessage {error : ErrorKind} {detail : Option String}
    (shown : ∀ text, detail = some text → Graphic text.toList) :
    Graphic (failureMessage error detail).toList := by
  have sentence : Graphic error.sentence.toList ∧
      Graphic (Text.dropEnd '.' error.sentence.toList) := by
    cases error <;> decide
  have colon : Graphic [':', ' '] := by decide
  unfold failureMessage
  split
  · exact sentence.1
  · rename_i text shows
    have given : detail = some text := by
      unfold shownDetail at shows
      split at shows
      · cases shows
      · exact shows
    have graphic := shown text given
    simp_all

theorem IsShowable.graphic_report {e : Envelope} (showable : e.IsShowable) (asJson : Bool) :
    Graphic (e.report asJson).toList := by
  cases asJson with
  | true =>
    simp only [report, if_true, Json.render, String.toList_ofList]
    exact Json.graphic_chars _
  | false =>
    cases e with
    | success value detail => exact showable
    | failure error detail =>
      have word : Graphic ("error: ".toList) := by decide
      have message := @graphic_failureMessage error detail showable
      simp_all [report]

end Envelope

theorem Value.graphic_display {value : Value} (text : ∀ s, value = .text s → Graphic s.toList) :
    Graphic value.display.toList := by
  have integer (z : Int) : Graphic (String.ofList (Text.Digits.textInt z)).toList := by
    simp [Text.Digits.graphic_textInt]
  cases value with
  | integer z => exact integer z
  | float x =>
    have written : Graphic x.text.toList := by simp [Binary64.text, NumberFormat.graphic_chars]
    simp only [Value.display]
    split
    · split
      · exact integer _
      · exact written
    · exact written
  | text s => exact text s rfl

namespace Calculator

theorem normalize_ne_text (x : Binary64) (s : String) : normalize x ≠ .text s := by
  have ofBinary64 (x : Binary64) : Value.ofBinary64 x ≠ .text s := by
    intro same
    unfold Value.ofBinary64 at same
    repeat' split at same
    all_goals cases same
  intro same
  unfold normalize at same
  repeat' split at same
  all_goals first | cases same | exact ofBinary64 _ same

/-- Only a large integer is reported as a text. -/
theorem exists_eq_textInt {c : Calculator} {input : Json} {s : String} {detail : Option String}
    (success : c.evaluate input = .success (.text s) detail) :
    ∃ z, s.toList = Text.Digits.textInt z := by
  obtain ⟨_, text, exact | rounded⟩ := evaluate_eq_success success
  · obtain ⟨_, z, _, _, _, stands⟩ := exactResult_eq_some.1 exact
    cases stands with
    | digits large decimal => exact ⟨z, Text.isDecimal_iff.1 decimal⟩
  · rw [roundedResult_result, toOption_eq_some] at rounded
    unfold roundedValue at rounded
    split at rounded
    · cases rounded
    · exact absurd (Except.ok.inj rounded) (normalize_ne_text _ s)

theorem graphic_detail_of_gate {c : Calculator} {text : List Char} {kind : ErrorKind}
    {detail : Option String} (stopped : c.gate? text = some (.failure kind detail)) :
    ∀ said, detail = some said → Graphic said.toList := by
  have words : Graphic "Expression exceeds ".toList ∧ Graphic " characters.".toList := by decide
  rw [gate?_eq, enveloped_tooLong] at stopped
  generalize limited : Option.map _ (Value.integer c.maxLength).display? = told at stopped
  repeat' split at stopped
  all_goals cases stopped
  all_goals intro said given
  all_goals cases given
  obtain ⟨limit, written, rfl⟩ := Option.map_eq_some_iff.1 limited
  have graphic : Graphic limit.toList := by
    rw [Value.display_of_display? written]
    exact Value.graphic_display nofun
  simp only [toString, String.toList_append, Text.graphic_append]
  exact ⟨⟨words.1, graphic⟩, words.2⟩

theorem detail_of_conclude {text : List Char} {value? : Option Value} {kind : ErrorKind}
    {detail : Option String}
    (failure : (conclude text (.ok value?)).result = .failure kind detail) : detail = none := by
  cases value? with
  | none =>
    cases failure
    rfl
  | some value =>
    simp only [conclude, Logged.result_pure] at failure
    split at failure
    · cases failure
      rfl
    · cases failure

theorem graphic_detail {c : Calculator} {text : String} {kind : ErrorKind} {detail : Option String}
    (failure : c.evaluate (.str text) = .failure kind detail) :
    ∀ said, detail = some said → Graphic said.toList := by
  cases gate : c.gate? (Text.trim text.toList) with
  | none =>
    have concluded := evaluateWith_of_gate .own gate
    rw [compute_eq_or] at concluded
    have silent := detail_of_conclude (concluded.symm.trans failure)
    simp [silent]
  | some envelope =>
    by_cases empty : text = ""
    · subst empty
      cases failure
      nofun
    · have stopped : c.evaluate (.str text) = envelope := evaluateWith_of_stopped .own empty gate
      rw [← stopped, failure] at gate
      exact graphic_detail_of_gate gate

theorem isShowable_evaluate (c : Calculator) (text : String) :
    (c.evaluate (.str text)).IsShowable := by
  cases outcome : c.evaluate (.str text) with
  | success value detail =>
    apply Value.graphic_display
    intro s same
    subst same
    obtain ⟨z, written⟩ := exists_eq_textInt outcome
    rw [written]
    exact Text.Digits.graphic_textInt z
  | failure kind detail => exact graphic_detail outcome

theorem graphic_report (c : Calculator) (text : String) (asJson : Bool) :
    Graphic ((c.evaluate (.str text)).report asJson).toList :=
  (isShowable_evaluate c text).graphic_report asJson

end Calculator

end Reckoner
