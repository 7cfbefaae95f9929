import Reckoner.Expr.Token

/-!
# Parsing

A token list is read by recursive descent:

* sums are terms joined by `+` and `-`, terms are operands joined by `*`, `/` and `%`, both
  grouped to the left;
* an operand is a sign before an operand, or a power;
* a power is a primary, alone or raised to an operand, so powers group to the right and a sign binds
  looser than a power on its left;
* a primary is a numeral or a sum in parentheses.

What stands behind a sign, inside parentheses or in an exponent is one level further down, and only
`maxNesting` levels may be entered. A reader is therefore built from the reader of the level below,
which is missing at the bottom. Every reader hands back fewer tokens than it was given.
-/

namespace Reckoner.Expr

/-! ## Readers -/

/-- What reading at the front of a token list gives: a tree and the tokens behind it. -/
abbrev Reading (tokens : List Token) :=
  Except SyntaxError (Expr × { rest : List Token // rest.length < tokens.length })

abbrev Reader := (tokens : List Token) → Reading tokens

/-- A reading of the tail of a token list, seen from the whole list. The tree can be wrapped. -/
def Reading.behind {tokens rest : List Token} (wrap : Expr → Expr)
    (h : rest.length < tokens.length) : Reading rest → Reading tokens
  | .error e => .error e
  | .ok (tree, ⟨rest', h'⟩) => .ok (wrap tree, ⟨rest', Nat.lt_trans h' h⟩)

/-- Goes down a level, if there is one. -/
def descend (inner : Option Reader) (tokens : List Token) : Reading tokens :=
  match inner with
  | none => .error .tooDeep
  | some read => read tokens

/-! ## Chains -/

/-- Reads on behind a first item: as long as an operator of the chain follows, another item is read
and joined to the left. -/
def chainFrom (joins : Op → Bool) (item : Reader) (left : Expr) (tokens : List Token) :
    Except SyntaxError (Expr × { rest : List Token // rest.length ≤ tokens.length }) :=
  match tokens with
  | ⟨.op o, position⟩ :: rest =>
    if joins o then
      match item rest with
      | .error e => .error e
      | .ok (right, ⟨rest', h⟩) =>
        match chainFrom joins item (.binary o left right) rest' with
        | .error e => .error e
        | .ok (tree, ⟨rest'', h'⟩) => .ok (tree, ⟨rest'', by simp only [List.length_cons]; omega⟩)
    else .ok (left, ⟨⟨.op o, position⟩ :: rest, Nat.le_refl _⟩)
  | tokens => .ok (left, ⟨tokens, Nat.le_refl _⟩)
termination_by tokens.length
decreasing_by simp only [List.length_cons]; omega

def chain (joins : Op → Bool) (item : Reader) : Reader := fun tokens =>
  match item tokens with
  | .error e => .error e
  | .ok (left, ⟨rest, h⟩) =>
    match chainFrom joins item left rest with
    | .error e => .error e
    | .ok (tree, ⟨rest', h'⟩) => .ok (tree, ⟨rest', Nat.lt_of_le_of_lt h' h⟩)

/-- Reads a sum, given the reader of its operands. -/
def sum (operand : Reader) : Reader :=
  chain Op.isAdditive (chain Op.isMultiplicative operand)

/-! ## Operands -/

/-- Reads a numeral, or a sum in parentheses one level down. -/
def primary (inner : Option Reader) : Reader
  | [] => .error .unexpectedEnd
  | ⟨.number n, _⟩ :: rest => .ok (.number n, ⟨rest, Nat.lt_succ_self _⟩)
  | ⟨.opening, position⟩ :: rest =>
    match descend (inner.map sum) rest with
    | .error e => .error e
    | .ok (tree, ⟨⟨.closing, _⟩ :: rest', h⟩) =>
      .ok (tree, ⟨rest', by simp only [List.length_cons] at *; omega⟩)
    | .ok _ => .error (.unbalanced position)
  | token :: _ => .error (.unexpectedToken token)

/-- Reads a primary and its exponent, if it has one, one level down. -/
def power (inner : Option Reader) : Reader := fun tokens =>
  match primary inner tokens with
  | .error e => .error e
  | .ok (base, ⟨⟨.op o, position⟩ :: rest, h⟩) =>
    if o.isPower then
      (descend inner rest).behind (.binary o base) (by simp only [List.length_cons] at h; omega)
    else .ok (base, ⟨⟨.op o, position⟩ :: rest, h⟩)
  | .ok read => .ok read

/-- Reads an operand, given the reader of the operands one level down. -/
def operandAbove (inner : Option Reader) : Reader
  | ⟨.op o, position⟩ :: rest =>
    match o.sign? with
    -- The operand of a sign is a level further down.
    | some sign => (descend inner rest).behind (.signed sign) (Nat.lt_succ_self _)
    | none => power inner (⟨.op o, position⟩ :: rest)
  | tokens => power inner tokens

/-- Reads an operand with a number of levels left to enter. -/
def operand : (levels : Nat) → Reader
  | 0 => operandAbove none
  | levels + 1 => operandAbove (some (operand levels))

/-! ## Whole texts -/

def ofTokens? : List Token → Except SyntaxError Expr
  | [] => .error .emptyExpression
  | tokens =>
    match sum (operand maxNesting) tokens with
    | .error e => .error e
    | .ok (tree, ⟨[], _⟩) => .ok tree
    | .ok (_, ⟨token :: _, _⟩) => .error (.unexpectedToken token)

def parse (text : List Char) : Except SyntaxError Expr :=
  match tokenize text with
  | .error e => .error e
  | .ok tokens => ofTokens? tokens

end Reckoner.Expr
