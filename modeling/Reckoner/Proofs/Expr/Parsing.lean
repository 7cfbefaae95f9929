import Reckoner.Proofs.Expr.Grammar
import Reckoner.Proofs.Expr.Readers

/-!
# Parsing is deriving

The readers accept what the grammar derives within the levels they may enter, and give its tree.

Soundness follows the readers. A chain holds what it has read so far as a tree on the left, so its
loop carries a derivation of that tree and extends it item by item.

Completeness follows the derivations. The front of a chain is no chain of its own for the readers,
which read on as long as an operator of the chain follows. What a derivation of a sum or a term
promises is therefore not that its tree is read, but that reading arrives at its tree and goes on
from there.
-/

namespace Reckoner.Expr

/-! ## Soundness -/

/-- Whatever a reader reads is derived, within a number of levels. -/
def Sound (reader : Reader) (construct : Construct) (levels : Nat) : Prop :=
  ∀ tokens tree rest, Reads reader tokens tree rest →
    ∃ consumed depth, tokens = consumed ++ rest ∧ depth ≤ levels ∧
      Derives construct (consumed.map Token.lexeme) tree depth

/-- Joining an item by an operator of a class to what an outer construct spells gives that
construct again. -/
def Joins (joins : Op → Bool) (outer item : Construct) : Prop :=
  ∀ {o before left depth behind right depth'}, joins o = true → Derives outer before left depth →
    Derives item behind right depth' →
    Derives outer (before ++ .op o :: behind) (.binary o left right) (max depth depth')

section Soundness

variable {joins : Op → Bool} {outer construct : Construct} {item : Reader} {levels : Nat}

theorem readsOn_sound (join : Joins joins outer construct) (sound : Sound item construct levels)
    {read : List Lexeme} {left tree : Expr} {tokens rest : List Token} {depth : Nat}
    (derives : Derives outer read left depth) (bound : depth ≤ levels)
    (reads : ReadsOn joins item left tokens tree rest) :
    ∃ consumed depth, tokens = consumed ++ rest ∧ depth ≤ levels ∧
      Derives outer (read ++ consumed.map Token.lexeme) tree depth := by
  -- The loop leaves fewer tokens each time it comes around.
  induction size : tokens.length using Nat.strongRecOn generalizing read left tokens depth with
  | ind n ih =>
    subst size
    match tokens with
    | ⟨.op o, position⟩ :: tail =>
      by_cases joined : joins o = true
      · obtain ⟨right, middle, head, continued⟩ := (readsOn_cons joined).1 reads
        obtain ⟨consumed, depth', rfl, bound', derives'⟩ := sound _ _ _ head
        obtain ⟨consumed', depth'', rfl, bound'', derives''⟩ :=
          ih middle.length (by simp only [List.length_cons, List.length_append]; omega)
            (join joined derives derives') (by omega) continued rfl
        refine ⟨⟨.op o, position⟩ :: consumed ++ consumed', depth'', by simp, bound'', ?_⟩
        simpa using derives''
      · obtain ⟨rfl, rfl⟩ := (readsOn_of_stops (by rintro _ _ _ ⟨⟩; simpa using joined)).1 reads
        exact ⟨[], depth, rfl, bound, by simpa using derives⟩
    | [] | ⟨.number _, _⟩ :: _ | ⟨.opening, _⟩ :: _ | ⟨.closing, _⟩ :: _ =>
      obtain ⟨rfl, rfl⟩ := (readsOn_of_stops (by rintro _ _ _ ⟨⟩)).1 reads
      exact ⟨[], depth, rfl, bound, by simpa using derives⟩

theorem sound_chain (join : Joins joins outer construct)
    (single : ∀ {lexemes tree depth}, Derives construct lexemes tree depth →
      Derives outer lexemes tree depth)
    (sound : Sound item construct levels) : Sound (chain joins item) outer levels := by
  intro tokens tree rest reads
  obtain ⟨left, middle, head, continued⟩ := reads_chain.1 reads
  obtain ⟨consumed, depth, rfl, bound, derives⟩ := sound _ _ _ head
  obtain ⟨consumed', depth', rfl, bound', derives'⟩ :=
    readsOn_sound join sound (single derives) bound continued
  exact ⟨consumed ++ consumed', depth', by simp, bound', by simpa using derives'⟩

theorem sound_sum (sound : Sound item .operand levels) : Sound (sum item) .sum levels :=
  sound_chain .joinTerm .term (sound_chain .joinOperand .operand sound)

/-- What a reader may expect of the reader of the level below. -/
def SoundBelow (inner : Option Reader) (levels : Nat) : Prop :=
  ∀ reader, inner = some reader → ∃ lower, levels = lower + 1 ∧ Sound reader .operand lower

variable {inner : Option Reader}

theorem sound_primary (below : SoundBelow inner levels) :
    Sound (primary inner) .primary levels := by
  intro tokens tree rest reads
  rcases reads_primary.1 reads with ⟨numeral, position, rfl, rfl⟩ |
    ⟨reader, position, content, position', lower, rfl, read⟩
  · exact ⟨[⟨.number numeral, position⟩], 0, rfl, Nat.zero_le _, .number⟩
  · obtain ⟨lower, rfl, sound⟩ := below reader lower
    obtain ⟨consumed, depth, rfl, bound, derives⟩ := sound_sum sound _ _ _ read
    refine ⟨⟨.opening, position⟩ :: (consumed ++ [⟨.closing, position'⟩]), depth + 1, by simp,
      by omega, ?_⟩
    simpa using derives.parenthesized

theorem sound_power (below : SoundBelow inner levels) : Sound (power inner) .power levels := by
  intro tokens tree rest reads
  rcases reads_power.1 reads with ⟨alone, _⟩ |
    ⟨reader, base, o, position, behind, exponent, lower, raises, head, tail, rfl⟩
  · obtain ⟨consumed, depth, rfl, bound, derives⟩ := sound_primary below _ _ _ alone
    exact ⟨consumed, depth, rfl, bound, derives.primary⟩
  · obtain ⟨consumed, depth, rfl, bound, derives⟩ := sound_primary below _ _ _ head
    obtain ⟨lower, rfl, sound⟩ := below reader lower
    obtain ⟨consumed', depth', rfl, bound', derives'⟩ := sound _ _ _ tail
    refine ⟨consumed ++ ⟨.op o, position⟩ :: consumed', max depth (depth' + 1), by simp, by omega, ?_⟩
    simpa using derives.raised raises derives'

theorem sound_operandAbove (below : SoundBelow inner levels) :
    Sound (operandAbove inner) .operand levels := by
  intro tokens tree rest reads
  rcases reads_operandAbove.1 reads with
    ⟨reader, o, sign, position, behind, operand, lower, signs, rfl, tail, rfl⟩ | ⟨_, unsigned⟩
  · obtain ⟨lower, rfl, sound⟩ := below reader lower
    obtain ⟨consumed, depth, rfl, bound, derives⟩ := sound _ _ _ tail
    exact ⟨⟨.op o, position⟩ :: consumed, depth + 1, rfl, by omega, derives.signed signs⟩
  · obtain ⟨consumed, depth, rfl, bound, derives⟩ := sound_power below _ _ _ unsigned
    exact ⟨consumed, depth, rfl, bound, derives.power⟩

end Soundness

theorem sound_operand (levels : Nat) : Sound (operand levels) .operand levels := by
  induction levels with
  | zero => exact sound_operandAbove (by rintro _ ⟨⟩)
  | succ lower ih => exact sound_operandAbove (by rintro _ ⟨⟩; exact ⟨lower, rfl, ih⟩)

/-! ## Completeness -/

/-- What a derivation promises about the readers that may enter a number of levels. -/
def Arrives (levels : Nat) (construct : Construct) (tokens : List Token) (tree : Expr) : Prop :=
  match construct with
  | .sum => ∀ rest result rest', Stops Op.isMultiplicative rest → Stops Op.isPower rest →
      ReadsOn Op.isAdditive (chain Op.isMultiplicative (operand levels)) tree rest result rest' →
      Reads (sum (operand levels)) (tokens ++ rest) result rest'
  | .term => ∀ rest result rest', Stops Op.isPower rest →
      ReadsOn Op.isMultiplicative (operand levels) tree rest result rest' →
      Reads (chain Op.isMultiplicative (operand levels)) (tokens ++ rest) result rest'
  | .operand => ∀ rest, Stops Op.isPower rest → Reads (operand levels) (tokens ++ rest) tree rest
  | .power => ∀ rest, Stops Op.isPower rest →
      Reads (power (lower levels)) (tokens ++ rest) tree rest
  | .primary => ∀ rest, Reads (primary (lower levels)) (tokens ++ rest) tree rest

theorem stops_op {joins : Op → Bool} {o : Op} (stops : joins o = false) (position : Nat)
    (tokens : List Token) : Stops joins (⟨.op o, position⟩ :: tokens) := by
  rintro _ _ _ ⟨⟩
  exact stops

theorem stops_closing (joins : Op → Bool) (position : Nat) (tokens : List Token) :
    Stops joins (⟨.closing, position⟩ :: tokens) := by
  rintro _ _ _ ⟨⟩

theorem stops_nil (joins : Op → Bool) : Stops joins [] := by
  rintro _ _ _ ⟨⟩

theorem Arrives.reads_term {levels : Nat} {tokens rest : List Token} {tree : Expr}
    (arrives : Arrives levels .term tokens tree) (stops : Stops Op.isMultiplicative rest)
    (stops' : Stops Op.isPower rest) :
    Reads (chain Op.isMultiplicative (operand levels)) (tokens ++ rest) tree rest :=
  arrives rest tree rest stops' ((readsOn_of_stops stops).2 ⟨rfl, rfl⟩)

theorem Arrives.reads_sum {levels : Nat} {tokens rest : List Token} {tree : Expr}
    (arrives : Arrives levels .sum tokens tree) (stops : ∀ joins, Stops joins rest) :
    Reads (sum (operand levels)) (tokens ++ rest) tree rest :=
  arrives rest tree rest (stops _) (stops _) ((readsOn_of_stops (stops _)).2 ⟨rfl, rfl⟩)

theorem lower_eq_some {levels depth : Nat} (bound : depth + 1 ≤ levels) :
    ∃ lower', lower levels = some (operand lower') ∧ depth ≤ lower' := by
  cases levels with
  | zero => omega
  | succ lower' => exact ⟨lower', rfl, by omega⟩

/-- A list of tokens that spells two parts with an operator between them. -/
theorem split_at_op {tokens : List Token} {before behind : List Lexeme} {o : Op}
    (spelled : tokens.map Token.lexeme = before ++ .op o :: behind) :
    ∃ left position right, tokens = left ++ ⟨.op o, position⟩ :: right ∧
      left.map Token.lexeme = before ∧ right.map Token.lexeme = behind := by
  obtain ⟨left, tail, rfl, rfl, spelledTail⟩ := List.map_eq_append_iff.1 spelled
  obtain ⟨⟨lexeme, position⟩, right, rfl, rfl, rfl⟩ := List.map_eq_cons_iff.1 spelledTail
  exact ⟨left, position, right, rfl, rfl, rfl⟩

theorem arrives_of_derives {construct : Construct} {lexemes : List Lexeme} {tree : Expr} {depth : Nat}
    (derives : Derives construct lexemes tree depth) :
    ∀ levels tokens, depth ≤ levels → tokens.map Token.lexeme = lexemes →
      Arrives levels construct tokens tree := by
  induction derives with
  | @term lexemes tree depth _ ih =>
    intro levels tokens bound spelled rest result rest' stops stops' continued
    have arrives := ih levels tokens bound spelled
    exact reads_chain.2 ⟨tree, rest, arrives.reads_term stops stops', continued⟩
  | @joinTerm o before left depth behind right depth' adds _ _ ihl ihr =>
    intro levels tokens bound spelled rest result rest' stops stops' continued
    obtain ⟨front, position, back, rfl, spelledFront, spelledBack⟩ := split_at_op spelled
    have arrives := ihr levels back (by omega) spelledBack
    -- Behind the front the chain goes on with this operator, and so gets to the joined tree.
    have goesOn : ReadsOn Op.isAdditive _ left (⟨.op o, position⟩ :: (back ++ rest)) result rest' :=
      (readsOn_cons adds).2 ⟨right, rest, arrives.reads_term stops stops', continued⟩
    simpa using ihl levels front (by omega) spelledFront _ _ _
      (stops_op (Op.not_isMultiplicative_of_isAdditive adds) _ _)
      (stops_op (Op.not_isPower_of_isAdditive adds) _ _) goesOn
  | @operand lexemes tree depth _ ih =>
    intro levels tokens bound spelled rest result rest' stops continued
    exact reads_chain.2 ⟨tree, rest, ih levels tokens bound spelled rest stops, continued⟩
  | @joinOperand o before left depth behind right depth' multiplies _ _ ihl ihr =>
    intro levels tokens bound spelled rest result rest' stops continued
    obtain ⟨front, position, back, rfl, spelledFront, spelledBack⟩ := split_at_op spelled
    have item := ihr levels back (by omega) spelledBack rest stops
    have goesOn :
        ReadsOn Op.isMultiplicative _ left (⟨.op o, position⟩ :: (back ++ rest)) result rest' :=
      (readsOn_cons multiplies).2 ⟨right, rest, item, continued⟩
    simpa using ihl levels front (by omega) spelledFront _ _ _
      (stops_op (Op.not_isPower_of_isMultiplicative multiplies) _ _) goesOn
  | @signed o sign lexemes tree depth signs _ ih =>
    intro levels tokens bound spelled rest stops
    obtain ⟨⟨lexeme, position⟩, back, rfl, rfl, spelledBack⟩ := List.map_eq_cons_iff.1 spelled
    obtain ⟨levels', found, bound'⟩ := lower_eq_some bound
    rw [operand_eq]
    exact reads_operandAbove.2 (.inl ⟨operand levels', o, sign, position, back ++ rest, tree, found,
      signs, rfl, ih levels' back bound' spelledBack rest stops, rfl⟩)
  | @power lexemes tree depth derives ih =>
    intro levels tokens bound spelled rest stops
    rw [operand_eq]
    refine reads_operandAbove.2 (.inr ⟨?_, ih levels tokens bound spelled rest stops⟩)
    -- A sign is no beginning of a power, so that the reader does not take one off.
    obtain ⟨lexeme, lexemes', rfl, starts⟩ := derives.head_power
    obtain ⟨⟨lexeme, position⟩, back, rfl, rfl, _⟩ := List.map_eq_cons_iff.1 spelled
    rintro o position' rest' ⟨⟩
    cases starts
  | @raised o before base depth behind exponent depth' raises _ _ ihl ihr =>
    intro levels tokens bound spelled rest stops
    obtain ⟨front, position, back, rfl, spelledFront, spelledBack⟩ := split_at_op spelled
    -- Only the exponent is read one level further down.
    have room : depth' + 1 ≤ levels := by omega
    obtain ⟨levels', found, bound'⟩ := lower_eq_some room
    have head := ihl levels front (by omega) spelledFront (⟨.op o, position⟩ :: (back ++ rest))
    have tail := ihr levels' back bound' spelledBack rest stops
    refine reads_power.2 (.inr ⟨operand levels', base, o, position, back ++ rest, exponent, found,
      raises, ?_, tail, rfl⟩)
    simpa using head
  | @primary lexemes tree depth _ ih =>
    intro levels tokens bound spelled rest stops
    refine reads_power.2 (.inl ⟨ih levels tokens bound spelled rest, stops⟩)
  | @number numeral =>
    intro levels tokens bound spelled rest
    obtain ⟨⟨lexeme, position⟩, back, rfl, rfl, none⟩ := List.map_eq_cons_iff.1 spelled
    obtain rfl := List.map_eq_nil_iff.1 none
    exact reads_primary.2 (.inl ⟨numeral, position, rfl, rfl⟩)
  | @parenthesized lexemes tree depth _ ih =>
    intro levels tokens bound spelled rest
    obtain ⟨⟨lexeme, position⟩, tail, rfl, rfl, spelledTail⟩ := List.map_eq_cons_iff.1 spelled
    obtain ⟨content, back, rfl, spelledContent, spelledBack⟩ := List.map_eq_append_iff.1 spelledTail
    obtain ⟨⟨lexeme, position'⟩, back, rfl, rfl, none⟩ := List.map_eq_cons_iff.1 spelledBack
    obtain rfl := List.map_eq_nil_iff.1 none
    obtain ⟨levels', found, bound'⟩ := lower_eq_some bound
    -- The closing parenthesis goes on with no chain, so the content is read to its end.
    have arrives := ih levels' content bound' spelledContent
    refine reads_primary.2 (.inr ⟨operand levels', position, content ++ ⟨.closing, position'⟩ :: rest,
      position', found, by simp, ?_⟩)
    exact arrives.reads_sum (stops_closing · position' rest)

/-! ## Texts -/

theorem ofTokens?_eq_ok {tokens : List Token} {tree : Expr} :
    ofTokens? tokens = .ok tree ↔ Reads (sum (operand maxNesting)) tokens tree [] := by
  constructor
  · intro parsed
    unfold ofTokens? at parsed
    split at parsed
    · cases parsed
    · split at parsed
      · cases parsed
      · rename_i shorter read
        cases parsed
        exact ⟨shorter, read⟩
      · cases parsed
  · rintro ⟨shorter, read⟩
    cases tokens with
    | nil => cases shorter
    | cons token tokens => simp [ofTokens?, read]

theorem ofTokens?_eq_ok_iff_derives {tokens : List Token} {tree : Expr} :
    ofTokens? tokens = .ok tree ↔
      ∃ depth, depth ≤ maxNesting ∧ Derives .sum (tokens.map Token.lexeme) tree depth := by
  rw [ofTokens?_eq_ok]
  constructor
  · intro reads
    obtain ⟨consumed, depth, rfl, bound, derives⟩ := sound_sum (sound_operand _) _ _ _ reads
    exact ⟨depth, bound, by simpa using derives⟩
  · rintro ⟨depth, bound, derives⟩
    simpa using (arrives_of_derives derives maxNesting tokens bound rfl).reads_sum stops_nil

/-- Two derivations of the same lexemes have the same tree, however deep they nest: readers that may
enter the levels of both read either tree. -/
theorem Derives.unique {lexemes : List Lexeme} {tree tree' : Expr} {depth depth' : Nat}
    (derives : Derives .sum lexemes tree depth) (derives' : Derives .sum lexemes tree' depth') :
    tree = tree' := by
  have spelled : (lexemes.map (Token.mk · 0)).map Token.lexeme = lexemes := by
    simp [Function.comp_def]
  obtain ⟨_, read⟩ := (arrives_of_derives derives (max depth depth') _ (by omega) spelled).reads_sum
    stops_nil
  obtain ⟨_, read'⟩ := (arrives_of_derives derives' (max depth depth') _ (by omega) spelled).reads_sum
    stops_nil
  rw [read] at read'
  cases read'
  rfl

theorem parse_eq_ok {text : List Char} {tree : Expr} :
    parse text = .ok tree ↔ ∃ tokens, tokenize text = .ok tokens ∧ ofTokens? tokens = .ok tree := by
  unfold parse
  cases tokenize text with
  | error why => simp
  | ok tokens => simp

/-- A text is parsed into a tree exactly if its tokens derive that tree within the levels that are
allowed. No other derivation of the tokens, however deep, has another tree, and a text without a
derivation is an error. -/
theorem parse_eq_ok_iff_derives (text : List Char) :
    (∀ tree, parse text = .ok tree ↔
      ∃ tokens depth, tokenize text = .ok tokens ∧ depth ≤ maxNesting ∧
        Derives .sum (tokens.map Token.lexeme) tree depth) ∧
    (∀ tokens tree tree' depth depth', tokenize text = .ok tokens →
      Derives .sum (tokens.map Token.lexeme) tree depth →
      Derives .sum (tokens.map Token.lexeme) tree' depth' → tree = tree') ∧
    ((¬ ∃ tree tokens depth, tokenize text = .ok tokens ∧ depth ≤ maxNesting ∧
        Derives .sum (tokens.map Token.lexeme) tree depth) →
      ∃ error, parse text = .error error) := by
  have accepted : ∀ tree, parse text = .ok tree ↔
      ∃ tokens depth, tokenize text = .ok tokens ∧ depth ≤ maxNesting ∧
        Derives .sum (tokens.map Token.lexeme) tree depth := by
    intro tree
    rw [parse_eq_ok]
    constructor
    · rintro ⟨tokens, cut, parsed⟩
      obtain ⟨depth, bound, derives⟩ := ofTokens?_eq_ok_iff_derives.1 parsed
      exact ⟨tokens, depth, cut, bound, derives⟩
    · rintro ⟨tokens, depth, cut, bound, derives⟩
      exact ⟨tokens, cut, ofTokens?_eq_ok_iff_derives.2 ⟨depth, bound, derives⟩⟩
  refine ⟨accepted, ?_, ?_⟩
  · intro tokens tree tree' depth depth' _ derives derives'
    exact derives.unique derives'
  · intro underivable
    cases parsed : parse text with
    | error error => exact ⟨error, rfl⟩
    | ok tree => exact absurd ⟨tree, (accepted tree).1 parsed⟩ underivable

/-- The sign of `-2^2` stands before the power, and the tokens of `1 2` derive nothing. -/
theorem parse_eq_ok_iff_derives_minus_two_squared :
    (∃ tokens, tokenize "-2^2".toList = .ok tokens ∧
      Derives .sum (tokens.map Token.lexeme)
        (.signed .minus (.binary .hat (.number (.integer ⟨2, []⟩)) (.number (.integer ⟨2, []⟩)))) 2 ∧
      ¬ Derives .sum (tokens.map Token.lexeme)
        (.binary .hat (.signed .minus (.number (.integer ⟨2, []⟩))) (.number (.integer ⟨2, []⟩))) 1) ∧
    ∃ error, parse "1 2".toList = .error error := by
  refine ⟨?_, ?_⟩
  · have cut : tokenize "-2^2".toList = .ok [⟨.op .sub, 0⟩, ⟨.number (.integer ⟨2, []⟩), 1⟩,
        ⟨.op .hat, 2⟩, ⟨.number (.integer ⟨2, []⟩), 3⟩] := by decide +kernel
    have derives : Derives .sum [.op .sub, .number (.integer ⟨2, []⟩), .op .hat,
        .number (.integer ⟨2, []⟩)]
        (.signed .minus (.binary .hat (.number (.integer ⟨2, []⟩)) (.number (.integer ⟨2, []⟩)))) 2 :=
      .term (.operand (.signed rfl (.power
        (@Derives.raised .hat [_] _ _ _ _ _ rfl .number (.power (.primary .number))))))
    refine ⟨_, cut, derives, ?_⟩
    intro derives'
    have same := (parse_eq_ok_iff_derives "-2^2".toList).2.1 _ _ _ _ _ cut derives derives'
    cases same
  · refine (parse_eq_ok_iff_derives "1 2".toList).2.2 ?_
    rintro ⟨tree, derivation⟩
    have parsed := ((parse_eq_ok_iff_derives "1 2".toList).1 tree).2 derivation
    have refused : parse "1 2".toList =
        .error (.unexpectedToken ⟨.number (.integer ⟨2, []⟩), 2⟩) := by decide +kernel
    rw [refused] at parsed
    cases parsed

end Reckoner.Expr
