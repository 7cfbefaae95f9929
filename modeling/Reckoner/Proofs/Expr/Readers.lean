import Reckoner.Expr.Parser

/-!
# What the readers read

Each reader gets one lemma that says everything it can do. A reader hands back the tokens it leaves
together with the fact that there are fewer of them; `Reads` and `ReadsOn` drop that fact, so that
nobody behind this file has to open a reader.
-/

namespace Reckoner.Expr

def Reads (reader : Reader) (tokens : List Token) (tree : Expr) (rest : List Token) : Prop :=
  ∃ shorter, reader tokens = .ok (tree, ⟨rest, shorter⟩)

/-- What a chain reads behind its first item. -/
def ReadsOn (joins : Op → Bool) (item : Reader) (left : Expr) (tokens : List Token) (tree : Expr)
    (rest : List Token) : Prop :=
  ∃ shorter, chainFrom joins item left tokens = .ok (tree, ⟨rest, shorter⟩)

/-- The tokens do not go on with an operator of a class. -/
def Stops (joins : Op → Bool) (tokens : List Token) : Prop :=
  ∀ o position rest, tokens = ⟨.op o, position⟩ :: rest → joins o = false

/-- The reader one level further down. -/
def lower : (levels : Nat) → Option Reader
  | 0 => none
  | levels + 1 => some (operand levels)

theorem operand_eq (levels : Nat) : operand levels = operandAbove (lower levels) := by
  cases levels <;> rfl

/-! ## Chains -/

section Chains

variable {joins : Op → Bool} {item : Reader} {left tree : Expr} {tokens rest : List Token}

theorem readsOn_of_stops (stops : Stops joins tokens) :
    ReadsOn joins item left tokens tree rest ↔ tree = left ∧ rest = tokens := by
  unfold ReadsOn
  constructor
  · rintro ⟨shorter, result⟩
    rw [chainFrom.eq_def] at result
    split at result
    · rename_i o position tail
      rw [stops o position tail rfl] at result
      cases result
      exact ⟨rfl, rfl⟩
    · cases result
      exact ⟨rfl, rfl⟩
  · rintro ⟨rfl, rfl⟩
    refine ⟨Nat.le_refl _, ?_⟩
    rw [chainFrom.eq_def]
    split
    · rename_i o position tail
      rw [stops o position tail rfl]
      rfl
    · rfl

theorem readsOn_cons {o : Op} {position : Nat} (joined : joins o = true) :
    ReadsOn joins item left (⟨.op o, position⟩ :: tokens) tree rest ↔
      ∃ right middle, Reads item tokens right middle ∧
        ReadsOn joins item (.binary o left right) middle tree rest := by
  unfold ReadsOn
  rw [chainFrom]
  simp only [joined, if_true]
  constructor
  · rintro ⟨shorter, result⟩
    split at result
    · cases result
    · rename_i right middle shorter' read
      split at result
      · cases result
      · rename_i tree' rest' shorter'' continued
        cases result
        exact ⟨right, middle, ⟨shorter', read⟩, shorter'', continued⟩
  · rintro ⟨right, middle, ⟨shorter, read⟩, shorter', continued⟩
    refine ⟨by simp only [List.length_cons]; omega, ?_⟩
    simp [read, continued]

theorem reads_chain :
    Reads (chain joins item) tokens tree rest ↔
      ∃ left middle, Reads item tokens left middle ∧ ReadsOn joins item left middle tree rest := by
  unfold Reads ReadsOn chain
  constructor
  · rintro ⟨shorter, result⟩
    split at result
    · cases result
    · rename_i left middle shorter' read
      split at result
      · cases result
      · rename_i tree' rest' shorter'' continued
        cases result
        exact ⟨left, middle, ⟨shorter', read⟩, shorter'', continued⟩
  · rintro ⟨left, middle, ⟨shorter, read⟩, shorter', continued⟩
    refine ⟨by omega, ?_⟩
    simp [read, continued]

end Chains

/-! ## Operands -/

section Operands

variable {inner : Option Reader} {tree : Expr} {tokens rest : List Token}

theorem reads_descend :
    Reads (descend inner) tokens tree rest ↔
      ∃ reader, inner = some reader ∧ Reads reader tokens tree rest := by
  cases inner <;> simp [Reads, descend]

theorem reads_primary :
    Reads (primary inner) tokens tree rest ↔
      (∃ numeral position, tokens = ⟨.number numeral, position⟩ :: rest ∧ tree = .number numeral) ∨
      (∃ reader position content position', inner = some reader ∧
        tokens = ⟨.opening, position⟩ :: content ∧
        Reads (sum reader) content tree (⟨.closing, position'⟩ :: rest)) := by
  constructor
  · rintro ⟨shorter, result⟩
    match tokens with
    | [] => cases result
    | ⟨.number numeral, position⟩ :: tail =>
      cases result
      exact .inl ⟨numeral, position, rfl, rfl⟩
    | ⟨.opening, position⟩ :: content =>
      rw [primary] at result
      split at result
      · cases result
      · rename_i tree' position' rest' shorter' read
        cases result
        obtain ⟨reader, lower, read⟩ := reads_descend.1 ⟨shorter', read⟩
        obtain ⟨reader, rfl, rfl⟩ := Option.map_eq_some_iff.1 lower
        exact .inr ⟨reader, position, content, position', rfl, rfl, read⟩
      · cases result
    | ⟨.op _, _⟩ :: _ => cases result
    | ⟨.closing, _⟩ :: _ => cases result
  -- Conversely the reader also has to be told that fewer tokens are left.
  · rintro (⟨numeral, position, rfl, rfl⟩ | ⟨reader, position, content, position', rfl, rfl, read⟩)
    · exact ⟨Nat.lt_succ_self _, rfl⟩
    · obtain ⟨shorter, read⟩ := read
      refine ⟨by simp only [List.length_cons] at shorter ⊢; omega, ?_⟩
      simp [primary, descend, read]

theorem behind_eq_ok {behind : List Token} {wrap : Expr → Expr} {shorter : behind.length < tokens.length}
    {reading : Reading behind} :
    (∃ shorter', reading.behind wrap shorter = .ok (tree, ⟨rest, shorter'⟩)) ↔
      ∃ operand shorter', reading = .ok (operand, ⟨rest, shorter'⟩) ∧ tree = wrap operand := by
  constructor
  · rintro ⟨shorter', result⟩
    match reading with
    | .error _ => cases result
    | .ok (operand, ⟨rest', shorter''⟩) =>
      cases result
      exact ⟨operand, shorter'', rfl, rfl⟩
  · rintro ⟨operand, shorter', rfl, rfl⟩
    exact ⟨Nat.lt_trans shorter' shorter, rfl⟩

theorem reads_power :
    Reads (power inner) tokens tree rest ↔
      (Reads (primary inner) tokens tree rest ∧ Stops Op.isPower rest) ∨
      (∃ reader base o position behind exponent, inner = some reader ∧ o.isPower = true ∧
        Reads (primary inner) tokens base (⟨.op o, position⟩ :: behind) ∧
        Reads reader behind exponent rest ∧ tree = .binary o base exponent) := by
  constructor
  · rintro ⟨shorter, result⟩
    unfold power at result
    split at result
    · cases result
    · rename_i base o position behind shorter' read
      split at result
      · rename_i raises
        obtain ⟨exponent, shorter'', read', rfl⟩ := behind_eq_ok.1 ⟨shorter, result⟩
        obtain ⟨reader, lower, read'⟩ := reads_descend.1 ⟨shorter'', read'⟩
        exact .inr ⟨reader, base, o, position, behind, exponent, lower, raises, ⟨shorter', read⟩,
          read', rfl⟩
      · rename_i stops
        cases result
        refine .inl ⟨⟨_, read⟩, ?_⟩
        intro o' position' rest' same
        cases same
        simpa using stops
    · rename_i notOp read
      cases result
      refine .inl ⟨⟨shorter, read⟩, ?_⟩
      rintro o position behind rfl
      exact (notOp _ _ _ _ _ rfl).elim
  -- The reader looks for an operator by itself, so either case has to be matched with its own.
  · rintro (⟨⟨shorter, read⟩, stops⟩ | ⟨reader, base, o, position, behind, exponent, lower, raises,
      ⟨shorter, read⟩, read', rfl⟩)
    · refine ⟨shorter, ?_⟩
      unfold power
      split
      · simp_all
      · rename_i base o position behind shorter' read'
        rw [read] at read'
        cases read'
        simp [stops o position behind rfl]
      · simp_all
    · obtain ⟨shorter', read'⟩ := reads_descend.2 ⟨reader, lower, read'⟩
      obtain ⟨shorter'', result⟩ := behind_eq_ok.2 ⟨exponent, shorter', read', rfl⟩
      refine ⟨shorter'', ?_⟩
      unfold power
      simp only [read, raises, if_true]
      exact result

theorem reads_operandAbove :
    Reads (operandAbove inner) tokens tree rest ↔
      (∃ reader o sign position behind operand, inner = some reader ∧ o.sign? = some sign ∧
        tokens = ⟨.op o, position⟩ :: behind ∧ Reads reader behind operand rest ∧
        tree = .signed sign operand) ∨
      (Stops (·.sign?.isSome) tokens ∧ Reads (power inner) tokens tree rest) := by
  constructor
  · rintro ⟨shorter, result⟩
    unfold operandAbove at result
    split at result
    · rename_i o position behind
      split at result
      · rename_i sign signs
        obtain ⟨operand, shorter', read, rfl⟩ := behind_eq_ok.1 ⟨shorter, result⟩
        obtain ⟨reader, lower, read⟩ := reads_descend.1 ⟨shorter', read⟩
        exact .inl ⟨reader, o, sign, position, behind, operand, lower, signs, rfl, read, rfl⟩
      · rename_i unsigned
        refine .inr ⟨?_, shorter, result⟩
        intro o' position' rest' same
        cases same
        simp [unsigned]
    · rename_i notOp
      exact .inr ⟨fun o position rest same => (notOp o position rest same).elim, shorter, result⟩
  · rintro (⟨reader, o, sign, position, behind, operand, lower, signs, rfl, read, rfl⟩ |
      ⟨stops, shorter, read⟩)
    · obtain ⟨shorter, read⟩ := reads_descend.2 ⟨reader, lower, read⟩
      obtain ⟨shorter', result⟩ := behind_eq_ok.2 ⟨operand, shorter, read, rfl⟩
      refine ⟨shorter', ?_⟩
      unfold operandAbove
      simp only [signs]
      exact result
    · refine ⟨shorter, ?_⟩
      unfold operandAbove
      split
      · rename_i o position behind
        have unsigned : o.sign? = none := by simpa using stops o position behind rfl
        simp only [unsigned]
        exact read
      · exact read

end Operands

end Reckoner.Expr
