import Reckoner.Proofs.Expr.Grammar

/-!
# The depth of a derivation

The lexemes of a construct tell how deep it nests: all derivations of one tree from the same lexemes
have the same depth, `Expr.Derives.depth_unique`.

Two derivations are compared at their outermost steps, `Expr.Outermost`. They could only disagree
there if a list of lexemes was a construct between parentheses and also two constructs with an
operator between them. It is not: every construct closes what it opens, `Expr.Derives.balanced`, and
the first of the two constructs would leave the outer parenthesis open.
-/

namespace Reckoner

/-! ## Balance -/

namespace Lexeme

/-- The parentheses that are opened, less those that are closed. -/
def balance (lexemes : List Lexeme) : Int :=
  lexemes.count .opening - lexemes.count .closing

theorem balance_append (front rest : List Lexeme) :
    balance (front ++ rest) = balance front + balance rest := by
  simp only [balance, List.count_append]
  omega

theorem balance_cons (lexeme : Lexeme) (rest : List Lexeme) :
    balance (lexeme :: rest) = balance [lexeme] + balance rest :=
  balance_append [lexeme] rest

/-- Everything that is opened is closed, and nothing is closed before it was opened. -/
structure Balanced (lexemes : List Lexeme) : Prop where
  total : balance lexemes = 0
  front : ∀ front, front <+: lexemes → 0 ≤ balance front

/-- A front of two lists is one of the first, or goes on into the second. -/
theorem front_append {front before behind : List Lexeme} (isFront : front <+: before ++ behind) :
    front <+: before ∨ ∃ rest, front = before ++ rest ∧ rest <+: behind := by
  rcases List.prefix_or_prefix_of_prefix isFront (List.prefix_append before behind) with
    short | ⟨rest, rfl⟩
  · exact .inl short
  · exact .inr ⟨rest, rfl, (List.prefix_append_right_inj before).1 isFront⟩

theorem Balanced.append {before behind : List Lexeme} (left : Balanced before)
    (right : Balanced behind) : Balanced (before ++ behind) := by
  refine ⟨?_, ?_⟩
  · rw [balance_append, left.total, right.total]
    rfl
  · intro front isFront
    rcases front_append isFront with short | ⟨rest, rfl, isRest⟩
    · exact left.front _ short
    · have := right.front _ isRest
      rw [balance_append, left.total]
      omega

theorem Balanced.cons {lexeme : Lexeme} {rest : List Lexeme} (plain : lexeme.isParenthesis = false)
    (balanced : Balanced rest) : Balanced (lexeme :: rest) := by
  have single : Balanced [lexeme] := by
    cases lexeme with
    | number _ | op _ =>
      refine ⟨rfl, ?_⟩
      intro front isFront
      rcases List.prefix_cons_iff.1 isFront with rfl | ⟨_, rfl, nothing⟩
      · decide
      · rw [List.prefix_nil.1 nothing]
        exact Int.le_refl 0
    | opening | closing => cases plain
  exact single.append balanced

/-- The outer parenthesis stays open up to the very end. -/
theorem Balanced.balance_pos {content front : List Lexeme} (balanced : Balanced content)
    (isFront : front <+: .opening :: (content ++ [.closing])) (nonempty : front ≠ [])
    (part : front ≠ .opening :: (content ++ [.closing])) : 0 < balance front := by
  obtain ⟨inner, rfl, isInner⟩ := (List.prefix_cons_iff.1 isFront).resolve_left nonempty
  have opened : balance [.opening] = 1 := rfl
  rw [balance_cons, opened]
  rcases front_append isInner with short | ⟨rest, rfl, isRest⟩
  · have := balanced.front _ short
    omega
  · rcases List.prefix_cons_iff.1 isRest with rfl | ⟨_, rfl, nothing⟩
    · rw [List.append_nil, balanced.total]
      decide
    · rw [List.prefix_nil.1 nothing] at part
      exact absurd rfl part

theorem Balanced.parenthesized {content : List Lexeme} (balanced : Balanced content) :
    Balanced (.opening :: (content ++ [.closing])) := by
  have total : balance (.opening :: (content ++ [.closing])) = 0 := by
    rw [balance_cons, balance_append, balanced.total]
    rfl
  refine ⟨total, ?_⟩
  intro front isFront
  by_cases nonempty : front = []
  · subst nonempty
    decide
  · by_cases part : front = .opening :: (content ++ [.closing])
    · exact Int.le_of_eq (part ▸ total.symm)
    · exact Int.le_of_lt (balanced.balance_pos isFront nonempty part)

end Lexeme

namespace Expr

open Lexeme (balance Balanced)

theorem Derives.balanced {construct : Construct} {lexemes : List Lexeme} {tree : Expr} {depth : Nat}
    (derives : Derives construct lexemes tree depth) : Balanced lexemes := by
  induction derives with
  | term _ ih | operand _ ih | power _ ih | primary _ ih => exact ih
  | joinTerm _ _ _ left right | joinOperand _ _ _ left right | raised _ _ _ left right =>
    exact left.append (right.cons rfl)
  | signed _ _ ih => exact ih.cons rfl
  | number => exact Balanced.cons rfl ⟨rfl, by simp [balance]⟩
  | parenthesized _ ih => exact ih.parenthesized

theorem Derives.ne_nil {construct : Construct} {lexemes : List Lexeme} {tree : Expr} {depth : Nat}
    (derives : Derives construct lexemes tree depth) : lexemes ≠ [] := by
  rintro rfl
  obtain ⟨_, head, _⟩ := derives.framed.first
  cases head

/-! ## Outermost steps -/

/-- The outermost step of a derivation. It is the same for all constructs that the derivation is one
of. -/
inductive Outermost : List Lexeme → Expr → Nat → Prop where
  | number {numeral} : Outermost [.number numeral] (.number numeral) 0
  | parenthesized {content tree depth} : Derives .sum content tree depth →
      Outermost (.opening :: (content ++ [.closing])) tree (depth + 1)
  | signed {o sign lexemes tree depth} : Derives .operand lexemes tree depth →
      Outermost (.op o :: lexemes) (.signed sign tree) (depth + 1)
  | joined {o c c' before left depth behind right depth'} : Derives c before left depth →
      Derives c' behind right depth' →
      Outermost (before ++ .op o :: behind) (.binary o left right)
        (max depth (depth' + o.isPower.toNat))

theorem Derives.outermost {construct : Construct} {lexemes : List Lexeme} {tree : Expr} {depth : Nat}
    (derives : Derives construct lexemes tree depth) : Outermost lexemes tree depth := by
  induction derives with
  | term _ ih | operand _ ih | power _ ih | primary _ ih => exact ih
  | @joinTerm o _ _ _ _ _ _ adds left right =>
    have joined := Outermost.joined (o := o) left right
    rwa [Op.not_isPower_of_isAdditive adds] at joined
  | @joinOperand o _ _ _ _ _ _ multiplies left right =>
    have joined := Outermost.joined (o := o) left right
    rwa [Op.not_isPower_of_isMultiplicative multiplies] at joined
  | @raised o _ _ _ _ _ _ raises left right =>
    have joined := Outermost.joined (o := o) left right
    rwa [raises] at joined
  | signed _ operand => exact .signed operand
  | number => exact .number
  | parenthesized content => exact .parenthesized content

/-- Two constructs with an operator between them are no construct between parentheses. -/
theorem joined_ne_parenthesized {c c' : Construct} {before content : List Lexeme} {left tree : Expr}
    {depth depth' : Nat} (derives : Derives c before left depth)
    (derives' : Derives c' content tree depth') (o : Op) (behind : List Lexeme) :
    before ++ .op o :: behind ≠ .opening :: (content ++ [.closing]) := by
  intro same
  have isFront : before <+: .opening :: (content ++ [.closing]) := same ▸ List.prefix_append _ _
  have part : before ≠ .opening :: (content ++ [.closing]) := by
    rw [← same]
    intro whole
    simpa using congrArg List.length whole
  have opened := derives'.balanced.balance_pos isFront derives.ne_nil part
  rw [derives.balanced.total] at opened
  exact absurd opened (by decide)

/-- Lists that are split at operators with as many numerals and operators in front are split at the
same place. -/
theorem split_unique {o o' : Op} {before before' behind behind' : List Lexeme}
    (same : before ++ .op o :: behind = before' ++ .op o' :: behind')
    (kept : before.filter (!·.isParenthesis) = before'.filter (!·.isParenthesis)) :
    before = before' ∧ behind = behind' := by
  induction before generalizing before' with
  | nil =>
    cases before' with
    | nil => exact ⟨rfl, (List.cons.inj same).2⟩
    | cons lexeme before' =>
      obtain ⟨rfl, _⟩ := List.cons.inj same
      cases kept
  | cons lexeme before ih =>
    cases before' with
    | nil =>
      obtain ⟨rfl, _⟩ := List.cons.inj same
      cases kept
    | cons lexeme' before' =>
      obtain ⟨rfl, sameRest⟩ := List.cons.inj same
      have kept : before.filter (!·.isParenthesis) = before'.filter (!·.isParenthesis) := by
        simp only [List.filter_cons] at kept
        split at kept
        · exact (List.cons.inj kept).2
        · exact kept
      obtain ⟨rfl, rfl⟩ := ih sameRest kept
      exact ⟨rfl, rfl⟩

/-! ## Main result -/

/-- Outermost steps agree on the depth if the derivations behind them do. -/
theorem Outermost.depth_unique {lexemes lexemes' : List Lexeme} {tree : Expr} {depth depth' : Nat}
    (unique : ∀ {c c' part tree depth depth'}, part.length < lexemes.length →
      Derives c part tree depth → Derives c' part tree depth' → depth = depth')
    (step : Outermost lexemes tree depth) (step' : Outermost lexemes' tree depth')
    (same : lexemes = lexemes') : depth = depth' := by
  cases step with
  | number =>
    cases step' with
    | number => rfl
    | parenthesized _ => cases same
  | parenthesized content =>
    cases step' with
    | number => cases same
    | parenthesized content' =>
      obtain ⟨rfl, _⟩ := List.append_inj' (List.cons.inj same).2 rfl
      rw [unique (by simp only [List.length_cons, List.length_append]; omega) content content']
    | signed _ => cases same
    | joined left _ => exact absurd same.symm (joined_ne_parenthesized left content _ _)
  | signed operand =>
    cases step' with
    | parenthesized _ => cases same
    | signed operand' =>
      cases same
      rw [unique (by simp) operand operand']
  | joined left right =>
    cases step' with
    | parenthesized content => exact absurd same (joined_ne_parenthesized left content _ _)
    | joined left' right' =>
      obtain ⟨rfl, rfl⟩ := split_unique same (left.inorder_eq.trans left'.inorder_eq.symm)
      rw [unique (by simp) left left',
        unique (by simp only [List.length_cons, List.length_append]; omega) right right']

/-- All derivations of a tree from the same lexemes nest equally deep. -/
theorem Derives.depth_unique {c c' : Construct} {lexemes : List Lexeme} {tree : Expr}
    {depth depth' : Nat} (derives : Derives c lexemes tree depth)
    (derives' : Derives c' lexemes tree depth') : depth = depth' := by
  induction size : lexemes.length using Nat.strongRecOn generalizing c c' lexemes tree depth depth'
    with
  | ind n ih =>
    subst size
    exact derives.outermost.depth_unique (fun shorter part part' => ih _ shorter part part' rfl)
      derives'.outermost rfl

end Expr

end Reckoner
