import Mathlib.Data.List.Chain
import Reckoner.Expr.Parser

/-!
# The grammar of expressions

The constructs of the grammar, each built from the ones behind it:

* a sum is a term, or a sum joined to a term by `+` or `-`,
* a term is an operand, or a term joined to an operand by `*`, `/` or `%`,
* an operand is a power, or a sign before an operand,
* a power is a primary, alone or raised to an operand,
* a primary is a numeral, or a sum in parentheses.

`Derives` is this grammar as a relation between lexemes and trees. It knows nothing of the readers,
and counts how deep a derivation nests. Two facts about every derivation are used later on:
`Derives.framed` says which lexemes stand side by side, and `Derives.inorder_eq` says that the tree
keeps every lexeme but the parentheses.
-/

namespace Reckoner

/-! ## Lexemes in constructs -/

namespace Lexeme

/-- The lexemes that a primary can begin with. -/
def startsPrimary : Lexeme → Bool
  | number _ | opening => true
  | op _ | closing => false

/-- The lexemes that a construct can begin with. -/
def startsConstruct : Lexeme → Bool
  | op o => o.sign?.isSome
  | lexeme => lexeme.startsPrimary

/-- The lexemes that a construct can end with. -/
def endsConstruct : Lexeme → Bool
  | number _ | closing => true
  | op _ | opening => false

/-- Where one construct ends an operator or a closing parenthesis has to follow; anywhere else
another construct begins. -/
def precedes (lexeme next : Lexeme) : Bool :=
  if lexeme.endsConstruct then !next.startsPrimary else next.startsConstruct

/-- Whether a lexeme leaves no trace in a tree. -/
def isParenthesis : Lexeme → Bool
  | opening | closing => true
  | number _ | op _ => false

theorem precedes_op {lexeme : Lexeme} (ends : lexeme.endsConstruct = true) (o : Op) :
    lexeme.precedes (.op o) = true := by
  simp [precedes, ends, startsPrimary]

theorem op_precedes {lexeme : Lexeme} (starts : lexeme.startsConstruct = true) (o : Op) :
    precedes (.op o) lexeme = true := by
  simp [precedes, starts, endsConstruct]

end Lexeme

namespace Op

theorem not_isMultiplicative_of_isAdditive {o : Op} (adds : o.isAdditive = true) :
    o.isMultiplicative = false := by
  cases o <;> first | rfl | cases adds

theorem not_isPower_of_isAdditive {o : Op} (adds : o.isAdditive = true) : o.isPower = false := by
  cases o <;> first | rfl | cases adds

theorem not_isPower_of_isMultiplicative {o : Op} (multiplies : o.isMultiplicative = true) :
    o.isPower = false := by
  cases o <;> first | rfl | cases multiplies

end Op

/-- The operator that is spelled like a sign. -/
def Sign.op : Sign → Op
  | plus => .add
  | minus => .sub

theorem Sign.op_of_sign? {o : Op} {sign : Sign} (signs : o.sign? = some sign) : sign.op = o := by
  cases o <;> cases sign <;> first | rfl | cases signs

namespace Expr

/-! ## Derivations -/

inductive Construct where
  | sum
  | term
  | operand
  | power
  | primary

/-- `Derives construct lexemes tree depth` says that the lexemes spell a construct with this tree,
and that its innermost construct lies `depth` levels below it. The operand of a sign, an exponent
and the content of parentheses are one level below; what stands side by side is on one level. -/
inductive Derives : Construct → List Lexeme → Expr → Nat → Prop where
  | term {lexemes tree depth} : Derives .term lexemes tree depth → Derives .sum lexemes tree depth
  | joinTerm {o before left depth behind right depth'} : o.isAdditive = true →
      Derives .sum before left depth → Derives .term behind right depth' →
      Derives .sum (before ++ .op o :: behind) (.binary o left right) (max depth depth')
  | operand {lexemes tree depth} : Derives .operand lexemes tree depth →
      Derives .term lexemes tree depth
  | joinOperand {o before left depth behind right depth'} : o.isMultiplicative = true →
      Derives .term before left depth → Derives .operand behind right depth' →
      Derives .term (before ++ .op o :: behind) (.binary o left right) (max depth depth')
  | signed {o sign lexemes tree depth} : o.sign? = some sign →
      Derives .operand lexemes tree depth →
      Derives .operand (.op o :: lexemes) (.signed sign tree) (depth + 1)
  | power {lexemes tree depth} : Derives .power lexemes tree depth →
      Derives .operand lexemes tree depth
  | raised {o before base depth behind exponent depth'} : o.isPower = true →
      Derives .primary before base depth → Derives .operand behind exponent depth' →
      Derives .power (before ++ .op o :: behind) (.binary o base exponent) (max depth (depth' + 1))
  | primary {lexemes tree depth} : Derives .primary lexemes tree depth →
      Derives .power lexemes tree depth
  | number {numeral} : Derives .primary [.number numeral] (.number numeral) 0
  | parenthesized {lexemes tree depth} : Derives .sum lexemes tree depth →
      Derives .primary (.opening :: (lexemes ++ [.closing])) tree (depth + 1)

/-! ## Neighbours -/

/-- The shape of a list of lexemes that spells a construct. -/
structure Framed (lexemes : List Lexeme) : Prop where
  first : ∃ lexeme, lexemes.head? = some lexeme ∧ lexeme.startsConstruct = true
  last : ∃ lexeme, lexemes.getLast? = some lexeme ∧ lexeme.endsConstruct = true
  chain : lexemes.IsChain (·.precedes ·)

theorem Framed.cons_op {lexemes : List Lexeme} (framed : Framed lexemes) (o : Op) :
    (Lexeme.op o :: lexemes).IsChain (·.precedes ·) := by
  obtain ⟨lexeme, head, starts⟩ := framed.first
  refine List.isChain_cons.2 ⟨?_, framed.chain⟩
  intro next member
  rw [head] at member
  cases member
  exact Lexeme.op_precedes starts o

/-- Two framed lists stay framed when an operator joins them. -/
theorem Framed.join {before behind : List Lexeme} (left : Framed before) (right : Framed behind)
    (o : Op) : Framed (before ++ .op o :: behind) := by
  obtain ⟨first, head, starts⟩ := left.first
  obtain ⟨last, tail, ends⟩ := left.last
  obtain ⟨last', tail', ends'⟩ := right.last
  refine ⟨⟨first, by simp [head], starts⟩, ⟨last', ?_, ends'⟩, left.chain.append (right.cons_op o) ?_⟩
  · simp [List.getLast?_append, List.getLast?_cons, tail']
  -- The one pair of neighbours that neither list has is the end of the first and the operator.
  · intro lexeme member next member'
    rw [tail] at member
    cases member
    cases member'
    exact Lexeme.precedes_op ends o

theorem Framed.signed {lexemes : List Lexeme} (framed : Framed lexemes) {o : Op} {sign : Sign}
    (signs : o.sign? = some sign) : Framed (.op o :: lexemes) := by
  obtain ⟨last, tail, ends⟩ := framed.last
  refine ⟨⟨.op o, rfl, ?_⟩, ⟨last, ?_, ends⟩, framed.cons_op o⟩
  · simp [Lexeme.startsConstruct, signs]
  · simp [List.getLast?_cons, tail]

theorem Framed.parenthesized {lexemes : List Lexeme} (framed : Framed lexemes) :
    Framed (.opening :: (lexemes ++ [.closing])) := by
  obtain ⟨first, head, starts⟩ := framed.first
  obtain ⟨last, tail, ends⟩ := framed.last
  refine ⟨⟨.opening, rfl, rfl⟩, ⟨.closing, by simp [List.getLast?_cons], rfl⟩, ?_⟩
  refine List.isChain_cons.2 ⟨?_, framed.chain.append (.singleton _) ?_⟩
  · intro next member
    simp only [List.head?_append, head, Option.some_or] at member
    cases member
    simpa [Lexeme.precedes, Lexeme.endsConstruct] using starts
  · intro lexeme member next member'
    rw [tail] at member
    cases member
    cases member'
    simp [Lexeme.precedes, ends, Lexeme.startsPrimary]

theorem Derives.framed {construct : Construct} {lexemes : List Lexeme} {tree : Expr} {depth : Nat}
    (derives : Derives construct lexemes tree depth) : Framed lexemes := by
  induction derives with
  | term _ ih | operand _ ih | power _ ih | primary _ ih => exact ih
  | joinTerm _ _ _ left right | joinOperand _ _ _ left right | raised _ _ _ left right =>
    exact left.join right _
  | signed signs _ ih => exact ih.signed signs
  | number => exact ⟨⟨_, rfl, rfl⟩, ⟨_, rfl, rfl⟩, .singleton _⟩
  | parenthesized _ ih => exact ih.parenthesized

theorem Derives.head_primary {lexemes : List Lexeme} {tree : Expr} {depth : Nat}
    (derives : Derives .primary lexemes tree depth) :
    ∃ lexeme rest, lexemes = lexeme :: rest ∧ lexeme.startsPrimary = true := by
  cases derives with
  | number => exact ⟨_, _, rfl, rfl⟩
  | parenthesized _ => exact ⟨_, _, rfl, rfl⟩

/-- A power does not begin with a sign. -/
theorem Derives.head_power {lexemes : List Lexeme} {tree : Expr} {depth : Nat}
    (derives : Derives .power lexemes tree depth) :
    ∃ lexeme rest, lexemes = lexeme :: rest ∧ lexeme.startsPrimary = true := by
  cases derives with
  | primary derives => exact derives.head_primary
  | raised _ base _ =>
    obtain ⟨lexeme, rest, rfl, starts⟩ := base.head_primary
    exact ⟨lexeme, _, rfl, starts⟩

/-! ## What a tree keeps -/

/-- The lexemes of a tree in the order in which they are written, without parentheses. -/
def inorder : Expr → List Lexeme
  | number numeral => [.number numeral]
  | signed sign operand => .op sign.op :: operand.inorder
  | binary o left right => left.inorder ++ .op o :: right.inorder

/-- A derivation drops the parentheses and nothing else. -/
theorem Derives.inorder_eq {construct : Construct} {lexemes : List Lexeme} {tree : Expr} {depth : Nat}
    (derives : Derives construct lexemes tree depth) :
    lexemes.filter (!·.isParenthesis) = tree.inorder := by
  induction derives with
  | term _ ih | operand _ ih | power _ ih | primary _ ih => exact ih
  | joinTerm _ _ _ left right | joinOperand _ _ _ left right | raised _ _ _ left right =>
    simp [inorder, ← left, ← right, Lexeme.isParenthesis]
  | signed signs _ ih =>
    simp [inorder, ← ih, Lexeme.isParenthesis, Sign.op_of_sign? signs]
  | number => rfl
  | parenthesized _ ih => simpa [Lexeme.isParenthesis] using ih

end Expr

end Reckoner
