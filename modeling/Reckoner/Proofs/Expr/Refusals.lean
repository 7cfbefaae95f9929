import Reckoner.Proofs.Expr.Grammar
import Reckoner.Proofs.Expr.Readers

/-!
# Where the readers miss an operand

Two errors say that an operand is missing: either another token stands in its place, or the tokens
end there. `SyntaxError.noOperand` is both of them. Every reader gets one lemma that says when it
ends in such an error, so that nobody behind this file has to open a reader; what a reader gives
otherwise is in `Readers`.
-/

namespace Reckoner

/-- The error where an operand is missing, by the token that stands in its place. -/
def SyntaxError.noOperand : Option Token → SyntaxError
  | none => .unexpectedEnd
  | some token => .unexpectedToken token

namespace Expr

open SyntaxError (noOperand)

variable {joins : Op → Bool} {item : Reader} {inner : Option Reader} {left : Expr}
  {tokens : List Token} {error : SyntaxError} {next? : Option Token}

/-! ## Chains -/

theorem chainFrom_ne_error (stops : Stops joins tokens) :
    chainFrom joins item left tokens ≠ .error error := by
  obtain ⟨_, read⟩ : ReadsOn joins item left tokens left tokens :=
    (readsOn_of_stops stops).2 ⟨rfl, rfl⟩
  rw [read]
  rintro ⟨⟩

theorem chainFrom_cons_eq_error {o : Op} {position : Nat} (joined : joins o = true) :
    chainFrom joins item left (⟨.op o, position⟩ :: tokens) = .error error ↔
      item tokens = .error error ∨
      ∃ right middle, Reads item tokens right middle ∧
        chainFrom joins item (.binary o left right) middle = .error error := by
  rw [chainFrom]
  simp only [joined, if_true]
  constructor
  · intro refused
    split at refused
    · rename_i error' itemRefused
      cases refused
      exact .inl itemRefused
    · rename_i right middle shorter read
      split at refused
      · rename_i error' continued
        cases refused
        exact .inr ⟨right, middle, ⟨shorter, read⟩, continued⟩
      · cases refused
  · rintro (itemRefused | ⟨right, middle, ⟨shorter, read⟩, continued⟩)
    · simp [itemRefused]
    · simp [read, continued]

theorem chain_eq_error :
    chain joins item tokens = .error error ↔
      item tokens = .error error ∨
      ∃ left middle, Reads item tokens left middle ∧
        chainFrom joins item left middle = .error error := by
  unfold chain
  constructor
  · intro refused
    split at refused
    · rename_i error' itemRefused
      cases refused
      exact .inl itemRefused
    · rename_i left middle shorter read
      split at refused
      · rename_i error' continued
        cases refused
        exact .inr ⟨left, middle, ⟨shorter, read⟩, continued⟩
      · cases refused
  · rintro (itemRefused | ⟨left, middle, ⟨shorter, read⟩, continued⟩)
    · simp [itemRefused]
    · simp [read, continued]

/-! ## Operands -/

theorem descend_eq_noOperand :
    descend inner tokens = .error (noOperand next?) ↔
      ∃ reader, inner = some reader ∧ reader tokens = .error (noOperand next?) := by
  cases inner with
  | none => cases next? <;> simp [descend, noOperand]
  | some reader => simp [descend]

theorem behind_eq_error {behind : List Token} {wrap : Expr → Expr}
    {shorter : behind.length < tokens.length} {reading : Reading behind} :
    reading.behind wrap shorter = .error error ↔ reading = .error error := by
  cases reading with
  | error error' => simp [Reading.behind]
  | ok read => simp [Reading.behind]

theorem primary_eq_noOperand :
    primary inner tokens = .error (noOperand next?) ↔
      (tokens.head? = next? ∧ ∀ token, next? = some token → token.lexeme.startsPrimary = false) ∨
      (∃ reader position content, inner = some reader ∧ tokens = ⟨.opening, position⟩ :: content ∧
        sum reader content = .error (noOperand next?)) := by
  constructor
  · intro refused
    cases tokens with
    | nil =>
      cases next? with
      | none => exact .inl ⟨rfl, by rintro _ ⟨⟩⟩
      | some _ => cases refused
    | cons token content =>
      obtain ⟨lexeme, position⟩ := token
      cases lexeme with
      | number _ => cases refused
      | op _ | closing =>
        cases next? with
        | none => cases refused
        | some _ =>
          cases refused
          exact .inl ⟨rfl, by rintro _ ⟨⟩; rfl⟩
      | opening =>
        rw [primary] at refused
        split at refused
        · rename_i contentRefused
          cases refused
          obtain ⟨reader, below, readerRefused⟩ := descend_eq_noOperand.1 contentRefused
          obtain ⟨reader, rfl, rfl⟩ := Option.map_eq_some_iff.1 below
          exact .inr ⟨reader, position, content, rfl, rfl, readerRefused⟩
        · cases refused
        · cases next? <;> cases refused
  · rintro (⟨rfl, misplaced⟩ | ⟨reader, position, content, rfl, rfl, refused⟩)
    · cases tokens with
      | nil => rfl
      | cons token content =>
        obtain ⟨lexeme, position⟩ := token
        cases lexeme with
        | op _ | closing => rfl
        | number _ | opening => cases misplaced _ rfl
    · simp [primary, descend, refused]

theorem power_eq_error :
    power inner tokens = .error error ↔
      primary inner tokens = .error error ∨
      ∃ base o position behind, o.isPower = true ∧
        Reads (primary inner) tokens base (⟨.op o, position⟩ :: behind) ∧
        descend inner behind = .error error := by
  unfold power
  constructor
  · intro refused
    split at refused
    · rename_i error' baseRefused
      cases refused
      exact .inl baseRefused
    · rename_i base o position behind shorter read
      split at refused
      · rename_i raises
        exact .inr ⟨base, o, position, behind, raises, ⟨shorter, read⟩, behind_eq_error.1 refused⟩
      · cases refused
    · cases refused
  · rintro (baseRefused | ⟨base, o, position, behind, raises, ⟨shorter, read⟩, refused⟩)
    · simp [baseRefused]
    · simp only [read, raises, if_true]
      exact behind_eq_error.2 refused

theorem operandAbove_eq_error :
    operandAbove inner tokens = .error error ↔
      (∃ o sign position behind, o.sign? = some sign ∧ tokens = ⟨.op o, position⟩ :: behind ∧
        descend inner behind = .error error) ∨
      (Stops (·.sign?.isSome) tokens ∧ power inner tokens = .error error) := by
  constructor
  · intro refused
    unfold operandAbove at refused
    split at refused
    · rename_i o position behind
      split at refused
      · rename_i sign signs
        exact .inl ⟨o, sign, position, behind, signs, rfl, behind_eq_error.1 refused⟩
      · rename_i unsigned
        refine .inr ⟨?_, refused⟩
        rintro _ _ _ ⟨⟩
        simp [unsigned]
    · rename_i notOp
      exact .inr ⟨fun o position rest same => (notOp o position rest same).elim, refused⟩
  · rintro (⟨o, sign, position, behind, signs, rfl, refused⟩ | ⟨stops, refused⟩)
    · simp only [operandAbove, signs]
      exact behind_eq_error.2 refused
    · unfold operandAbove
      split
      · rename_i o position behind
        have unsigned : o.sign? = none := by simpa using stops o position behind rfl
        simp only [unsigned]
        exact refused
      · exact refused

end Expr

end Reckoner
