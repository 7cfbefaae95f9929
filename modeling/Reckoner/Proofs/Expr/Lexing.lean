import Reckoner.Proofs.Expr.Grammar

/-!
# Cutting and writing out

What is left of a text without its blanks is what its lexemes spell, `squeeze_of_tokenizeFrom`.
Conversely lexemes that are written out without anything between them are cut at the same places,
as long as none of them can be taken for the front of a longer one, `tokenizeFrom_written`.
-/

namespace Reckoner

open Text (Digit isBlank squeeze)
open Text.Digits (split)

/-! ## Runs of digits -/

namespace Text

theorem isBlank_toChar (d : Digit) : isBlank d.toChar = false := by
  revert d; decide

theorem Digits.split_append {ds : List Digit} {rest : List Char}
    (ends : ∀ c tail, rest = c :: tail → Digit.ofChar? c = none) :
    split (chars ds ++ rest) = (ds, rest) := by
  induction ds with
  | nil =>
    cases rest with
    | nil => rfl
    | cons c tail =>
      have none := ends c tail rfl
      simp [chars, split, none]
  | cons d ds ih =>
    have ih' : split (List.map Digit.toChar ds ++ rest) = (ds, rest) := ih
    simp [chars, split, Digit.ofChar?_toChar, ih']

end Text

/-! ## Single lexemes -/

/-- Whether a lexeme is not the front of a longer one when the characters of `rest` follow. -/
def Lexeme.Apart (lexeme : Lexeme) (rest : List Char) : Prop :=
  match lexeme with
  -- One point is enough for a numeral, so it can end in front of another.
  | .number n => ∀ c tail, rest = c :: tail → Digit.ofChar? c = none ∧ (c = '.' → n.isDecimal = true)
  | .op .mul => ∀ tail, rest ≠ '*' :: tail
  | .op _ | .opening | .closing => True

theorem Numeral.front?_append {n : Numeral} {rest : List Char}
    (apart : (Lexeme.number n).Apart rest) : Numeral.front? (n.chars ++ rest) = some (n, rest) := by
  have ends : ∀ c tail, rest = c :: tail → Digit.ofChar? c = none :=
    fun c tail same => (apart c tail same).1
  have point : Digit.ofChar? '.' = none := by decide
  cases n with
  | integer whole =>
    have cut : split (Text.Digits.chars whole.toList ++ rest) = (whole.toList, rest) :=
      Text.Digits.split_append ends
    simp only [Numeral.front?, Numeral.chars]
    rw [cut]
    simp only [DigitRun.toList]
    split
    -- The digits are followed by a point, which `apart` rules out.
    · rename_i same
      cases same
      cases (apart '.' _ rfl).2 rfl
    · rename_i same
      cases same
      rfl
    · rename_i same
      cases same
    · rename_i same
      cases same
  | mixed whole behind =>
    have cut : split (Text.Digits.chars whole.toList ++ '.' :: (Text.Digits.chars behind ++ rest)) =
        (whole.toList, '.' :: (Text.Digits.chars behind ++ rest)) :=
      Text.Digits.split_append (by rintro _ _ ⟨⟩; exact point)
    have cut' : split (Text.Digits.chars behind ++ rest) = (behind, rest) :=
      Text.Digits.split_append ends
    simp only [Numeral.front?, Numeral.chars, List.append_assoc, List.cons_append, cut]
    simp [DigitRun.toList, cut']
  | fraction behind =>
    have cut' : split (Text.Digits.chars behind.toList ++ rest) = (behind.toList, rest) :=
      Text.Digits.split_append ends
    simp only [Numeral.front?, Numeral.chars, List.cons_append, split, point, cut']
    rfl

/-- The characters that lexemes other than numerals begin with. -/
def Lexeme.marks : List Char :=
  ['*', '^', '+', '-', '/', '%', '(', ')']

theorem Lexeme.front?_of_not_mem_marks {c : Char} (text : List Char) (unmarked : c ∉ marks) :
    Lexeme.front? (c :: text) = (Numeral.front? (c :: text)).map fun (n, rest) => (.number n, rest) := by
  unfold marks at unmarked
  unfold Lexeme.front?
  split <;> simp_all

/-- A text that begins with a digit or a point begins with a numeral, if with anything. -/
theorem Lexeme.front?_number {c : Char} (text : List Char)
    (starts : c = '.' ∨ ∃ d : Digit, d.toChar = c) :
    Lexeme.front? (c :: text) = (Numeral.front? (c :: text)).map fun (n, rest) => (.number n, rest) := by
  refine front?_of_not_mem_marks text ?_
  rcases starts with rfl | ⟨d, rfl⟩
  · decide
  · revert d; decide

/-- A lexeme is read back whatever follows it, as long as it is kept apart from that. -/
theorem Lexeme.front?_append {lexeme : Lexeme} {rest : List Char} (apart : lexeme.Apart rest) :
    Lexeme.front? (lexeme.chars ++ rest) = some (lexeme, rest) := by
  cases lexeme with
  | number n =>
    obtain ⟨c, tail, spelled, starts⟩ : ∃ c tail, n.chars ++ rest = c :: tail ∧
        (c = '.' ∨ ∃ d : Digit, d.toChar = c) := by
      cases n with
      | integer whole => exact ⟨_, _, rfl, .inr ⟨whole.first, rfl⟩⟩
      | mixed whole behind => exact ⟨_, _, rfl, .inr ⟨whole.first, rfl⟩⟩
      | fraction behind => exact ⟨_, _, rfl, .inl rfl⟩
    have read := Numeral.front?_append apart
    rw [Lexeme.chars]
    rw [spelled] at read ⊢
    rw [Lexeme.front?_number tail starts, read]
    rfl
  | op o =>
    cases o with
    | mul =>
      cases rest with
      | nil => rfl
      | cons c tail =>
        have notStar : c ≠ '*' := fun same => apart tail (by rw [same])
        simp [Lexeme.chars, Op.chars, Lexeme.front?, notStar]
    | add | sub | div | rem | hat | pow => rfl
  | opening => rfl
  | closing => rfl

theorem Lexeme.isBlank_of_mem_chars {lexeme : Lexeme} {c : Char} (member : c ∈ lexeme.chars) :
    isBlank c = false := by
  have digits : ∀ ds : List Digit, c ∈ Text.Digits.chars ds → isBlank c = false := by
    intro ds member
    obtain ⟨d, _, rfl⟩ := List.mem_map.1 member
    exact Text.isBlank_toChar d
  cases lexeme with
  | number n =>
    cases n with
    | integer whole => exact digits _ member
    | mixed whole behind =>
      rcases List.mem_append.1 member with member | member
      · exact digits _ member
      · rcases List.mem_cons.1 member with rfl | member
        · decide
        · exact digits _ member
    | fraction behind =>
      rcases List.mem_cons.1 member with rfl | member
      · decide
      · exact digits _ member
  | op o =>
    revert member
    cases o <;> simp only [Lexeme.chars, Op.chars, List.mem_cons, List.not_mem_nil, or_false] <;>
      rintro (rfl | rfl) <;> decide
  | opening | closing =>
    obtain rfl := List.mem_singleton.1 member
    decide

theorem Lexeme.apart_nil (lexeme : Lexeme) : lexeme.Apart [] := by
  cases lexeme with
  | number n => rintro _ _ ⟨⟩
  | op o => cases o <;> first | trivial | rintro _ ⟨⟩
  | opening | closing => trivial

/-- Lexemes that may stand side by side are kept apart. -/
theorem Lexeme.apart_of_precedes {lexeme next : Lexeme} (precedes : lexeme.precedes next = true)
    (rest : List Char) : lexeme.Apart (next.chars ++ rest) := by
  cases lexeme with
  | number n =>
    rintro c tail same
    cases next with
    | number _ | opening => cases precedes
    | closing =>
      cases same
      exact ⟨by decide, fun point => absurd point (by decide)⟩
    | op o =>
      cases o <;> cases same <;> exact ⟨by decide, fun point => absurd point (by decide)⟩
  -- A star is the only operator that is the front of another one, and no star may follow it.
  | op o =>
    cases o with
    | mul =>
      intro tail same
      cases next with
      | number n =>
        have notStar : ∀ d : Digit, d.toChar ≠ '*' := by decide
        cases n with
        | integer whole | mixed whole behind => exact notStar whole.first (List.cons.inj same).1
        | fraction behind => cases same
      | opening => cases same
      | closing => cases precedes
      | op o => cases o <;> cases precedes <;> cases same
    | add | sub | div | rem | hat | pow => trivial
  | opening | closing => trivial

/-! ## Texts -/

theorem tokenizeFrom_lexeme {text rest : List Char} {lexeme : Lexeme} {tokens : List Token}
    {position : Nat} (read : Lexeme.front? text = some (lexeme, rest))
    (cut : tokenizeFrom (position + lexeme.chars.length) rest = .ok tokens) :
    tokenizeFrom position text = .ok (⟨lexeme, position⟩ :: tokens) := by
  have spelled := Lexeme.front?_eq_some read
  obtain ⟨c, tail, chars⟩ := List.exists_cons_of_length_pos lexeme.length_chars_pos
  have notBlank : isBlank c = false := Lexeme.isBlank_of_mem_chars (by rw [chars]; simp)
  rw [chars, List.cons_append] at spelled
  subst spelled
  rw [tokenizeFrom.eq_def]
  simp only [notBlank, Bool.false_eq_true, if_false]
  split
  · rename_i none
    rw [read] at none
    cases none
  · rename_i lexeme' rest' some
    rw [read] at some
    cases some
    rw [cut]

theorem squeeze_chars (lexeme : Lexeme) : squeeze lexeme.chars = lexeme.chars := by
  refine List.filter_eq_self.2 ?_
  intro c member
  simp [Lexeme.isBlank_of_mem_chars member]

/-- A text without its blanks is what its lexemes spell. -/
theorem squeeze_of_tokenizeFrom {position : Nat} {text : List Char} {tokens : List Token}
    (cut : tokenizeFrom position text = .ok tokens) :
    squeeze text = (tokens.map Token.lexeme).flatMap Lexeme.chars := by
  fun_induction tokenizeFrom position text generalizing tokens with
  | case1 => cases cut; rfl
  | case2 position c text blank ih =>
    simpa [squeeze, blank] using ih cut
  | case3 => cases cut
  | case4 => cases cut
  | case5 position c text notBlank lexeme rest read tokens' cut' ih =>
    cases cut
    rw [Lexeme.front?_eq_some read, Text.squeeze_append, squeeze_chars, ih cut']
    rfl

/-- Lexemes that may stand side by side are cut where they meet. -/
theorem tokenizeFrom_written {lexemes : List Lexeme}
    (chain : lexemes.IsChain (·.precedes ·)) (position : Nat) :
    ∃ tokens, tokenizeFrom position (lexemes.flatMap Lexeme.chars) = .ok tokens ∧
      tokens.map Token.lexeme = lexemes := by
  induction lexemes generalizing position with
  | nil => exact ⟨[], by rw [List.flatMap_nil, tokenizeFrom.eq_def], rfl⟩
  | cons lexeme lexemes ih =>
    obtain ⟨precedes, chain'⟩ := List.isChain_cons.1 chain
    obtain ⟨tokens, cut, spelled⟩ := ih chain' (position + lexeme.chars.length)
    have apart : lexeme.Apart (lexemes.flatMap Lexeme.chars) := by
      cases lexemes with
      | nil => exact lexeme.apart_nil
      | cons next lexemes => exact Lexeme.apart_of_precedes (precedes next rfl) _
    -- What follows is cut by the induction, so only the first lexeme has to be read back.
    refine ⟨⟨lexeme, position⟩ :: tokens, ?_, by simp [spelled]⟩
    exact tokenizeFrom_lexeme (Lexeme.front?_append apart) cut

end Reckoner
