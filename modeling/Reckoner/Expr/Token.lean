import Reckoner.Expr.Basic
import Reckoner.Text.Blank
import Reckoner.Text.Quoted

/-!
# Tokens

The text of an expression is cut into numerals, operators and parentheses; blanks separate them and
are dropped. At every position the longest lexeme is taken, so `**` is one operator and `1.` one
numeral.

* `Lexeme.front?` reads the lexeme at the front of a text,
* `tokenize` cuts a whole text, or reports the first character that starts no lexeme.

`front?_eq_some` says that reading a lexeme loses nothing.
-/

namespace Reckoner

open Text (Digit isBlank)
open Text.Digits (split chars_split)

inductive Lexeme where
  | number (numeral : Numeral)
  | op (op : Op)
  | opening
  | closing
  deriving DecidableEq, Repr

def Lexeme.chars : Lexeme → List Char
  | number n => n.chars
  | op o => o.chars
  | opening => ['(']
  | closing => [')']

/-- A lexeme and the position of its first character. -/
structure Token where
  lexeme : Lexeme
  position : Nat
  deriving DecidableEq, Repr

/-! ## Errors -/

/-- Why a text is not an expression. -/
inductive SyntaxError where
  /-- No lexeme starts with this character. -/
  | unexpectedCharacter (c : Char) (position : Nat)
  /-- There is no token at all. -/
  | emptyExpression
  /-- The token cannot stand here. -/
  | unexpectedToken (token : Token)
  /-- The tokens end where an operand is needed. -/
  | unexpectedEnd
  /-- The content of the parenthesis is not followed by its closing one. -/
  | unbalanced (position : Nat)
  /-- The text goes through more levels of nesting than are allowed. -/
  | tooDeep
  deriving DecidableEq, Repr

/-- The levels of nesting that an expression may have. -/
def maxNesting : Nat := 100

def SyntaxError.message : SyntaxError → String
  | unexpectedCharacter c position =>
    s!"Unexpected character {String.ofList (Text.quoted [c])} at position {position}."
  | emptyExpression => "Expression is empty."
  | unexpectedToken token =>
    s!"Unexpected {String.ofList (Text.quoted token.lexeme.chars)} at position {token.position}."
  | unexpectedEnd => "Unexpected end of expression."
  | unbalanced position => s!"Unbalanced parenthesis at position {position}."
  | tooDeep => s!"Expression nests deeper than {maxNesting} levels."

/-! ## Lexemes at the front of a text -/

/-- The longest numeral at the front of a text, and the rest of the text. -/
def Numeral.front? (text : List Char) : Option (Numeral × List Char) :=
  match split text with
  | (d :: ds, '.' :: rest) => some (.mixed ⟨d, ds⟩ (split rest).1, (split rest).2)
  | (d :: ds, rest) => some (.integer ⟨d, ds⟩, rest)
  | ([], '.' :: rest) =>
    match split rest with
    | (d :: ds, rest) => some (.fraction ⟨d, ds⟩, rest)
    | ([], _) => none
  | ([], _) => none

/-- The longest lexeme at the front of a text, and the rest of the text. -/
def Lexeme.front? : List Char → Option (Lexeme × List Char)
  | '*' :: '*' :: rest => some (.op .pow, rest)
  | '*' :: rest => some (.op .mul, rest)
  | '^' :: rest => some (.op .hat, rest)
  | '+' :: rest => some (.op .add, rest)
  | '-' :: rest => some (.op .sub, rest)
  | '/' :: rest => some (.op .div, rest)
  | '%' :: rest => some (.op .rem, rest)
  | '(' :: rest => some (.opening, rest)
  | ')' :: rest => some (.closing, rest)
  | text => (Numeral.front? text).map fun (n, rest) => (.number n, rest)

theorem Numeral.front?_eq_some {text : List Char} {n : Numeral} {rest : List Char}
    (h : Numeral.front? text = some (n, rest)) : text = n.chars ++ rest := by
  have hs := chars_split text
  unfold Numeral.front? at h
  split at h
  · rename_i d ds behind heq
    simp only [Option.some.injEq, Prod.mk.injEq] at h
    obtain ⟨rfl, rfl⟩ := h
    rw [heq] at hs
    have hb := chars_split behind
    simp only [Numeral.chars, DigitRun.toList, List.append_assoc, List.cons_append, hb]
    exact hs.symm
  · rename_i d ds rest' _ heq
    simp only [Option.some.injEq, Prod.mk.injEq] at h
    obtain ⟨rfl, rfl⟩ := h
    rw [heq] at hs
    exact hs.symm
  · rename_i behind heq
    rw [heq] at hs
    have hb := chars_split behind
    split at h
    · rename_i d ds rest' heq'
      simp only [Option.some.injEq, Prod.mk.injEq] at h
      obtain ⟨rfl, rfl⟩ := h
      rw [heq'] at hb
      simp only [Numeral.chars, DigitRun.toList, List.cons_append, hb]
      exact hs.symm
    · cases h
  · cases h

theorem Lexeme.front?_eq_some {text : List Char} {l : Lexeme} {rest : List Char}
    (h : Lexeme.front? text = some (l, rest)) : text = l.chars ++ rest := by
  unfold Lexeme.front? at h
  split at h
  case h_10 =>
    obtain ⟨⟨n, rest'⟩, hn, heq⟩ := Option.map_eq_some_iff.1 h
    simp only [Prod.mk.injEq] at heq
    obtain ⟨rfl, rfl⟩ := heq
    exact Numeral.front?_eq_some hn
  all_goals
    simp only [Option.some.injEq, Prod.mk.injEq] at h
    obtain ⟨rfl, rfl⟩ := h
    rfl

theorem Lexeme.length_chars_pos (l : Lexeme) : 0 < l.chars.length := by
  cases l with
  | number n =>
    cases n <;> simp [Lexeme.chars, Numeral.chars, DigitRun.toList, Text.Digits.chars]
  | op o => cases o <;> simp [Lexeme.chars, Op.chars]
  | opening => simp [Lexeme.chars]
  | closing => simp [Lexeme.chars]

theorem Lexeme.length_of_front? {text : List Char} {l : Lexeme} {rest : List Char}
    (h : Lexeme.front? text = some (l, rest)) : rest.length < text.length := by
  have := congrArg List.length (Lexeme.front?_eq_some h)
  have := l.length_chars_pos
  simp only [List.length_append] at *
  omega

/-! ## Texts -/

/-- Cuts a text that starts at a position into tokens. -/
def tokenizeFrom (position : Nat) : List Char → Except SyntaxError (List Token)
  | [] => .ok []
  | c :: text =>
    if isBlank c then tokenizeFrom (position + 1) text
    else
      match _h : Lexeme.front? (c :: text) with
      | none => .error (.unexpectedCharacter c position)
      | some (lexeme, rest) =>
        match tokenizeFrom (position + lexeme.chars.length) rest with
        | .error e => .error e
        | .ok tokens => .ok (⟨lexeme, position⟩ :: tokens)
termination_by text => text.length
decreasing_by
  · simp
  · exact Lexeme.length_of_front? _h

def tokenize (text : List Char) : Except SyntaxError (List Token) :=
  tokenizeFrom 0 text

end Reckoner
