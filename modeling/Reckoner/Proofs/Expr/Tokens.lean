import Reckoner.Proofs.Expr.Longest

/-!
# Where the tokens of a text are

`Cut` says what it is to cut a part of a text into tokens, by what stands at which position: the
tokens are in order, they are spelled where they are, nothing but blanks is left between them, and
none of them could be longer. `StrayAt` says that a position is the end of cutting, as neither a
blank nor a token can start there.

Both are decided from left to right, a blank or a lexeme at a time, `cut_blank` and `cut_lexeme`,
and so is `CutsTo`, which is about all that can come of cutting. Blanks between tokens change nothing
but positions, `tokenizeFrom_insert`. `tokenize_exact` sums this up.
-/

namespace Reckoner

open Text (Digit isBlank isDigit)

/-! ## Tokens -/

def Token.stop (t : Token) : Nat :=
  t.position + t.lexeme.chars.length

/-- What it is to cut a text into tokens from one position to another. -/
structure Cut (text : List Char) (start stop : Nat) (tokens : List Token) : Prop where
  forward : start ≤ stop
  ordered : tokens.Pairwise fun t u => t.position < u.position ∧ t.stop ≤ u.position
  inside : ∀ t ∈ tokens, start ≤ t.position ∧ t.stop ≤ stop
  spelled : ∀ t ∈ tokens, t.lexeme.chars <+: text.drop t.position
  blank : ∀ i c, start ≤ i → i < stop → text[i]? = some c →
    (∀ t ∈ tokens, i < t.position ∨ t.stop ≤ i) → isBlank c = true
  number : ∀ t ∈ tokens, ∀ n, t.lexeme = .number n → IsNumber n.chars ∧
    ∀ longer, IsNumber longer → longer <+: text.drop t.position → longer.length ≤ n.chars.length
  star : ∀ t ∈ tokens, t.lexeme = .op .mul → text[t.stop]? ≠ some '*'

/-- Neither a blank nor a token starts with the character at a position. -/
structure StrayAt (text : List Char) (position : Nat) (c : Char) : Prop where
  present : text[position]? = some c
  notBlank : isBlank c = false
  notDigit : isDigit c = false
  notOperator : c ∉ ['+', '-', '*', '/', '%', '^']
  notParenthesis : c ∉ ['(', ')']
  notPoint : c = '.' → ∀ d, text[position + 1]? = some d → isDigit d = false

/-- A token that a text is cut into is read where it is. -/
theorem Token.front?_iff {text : List Char} {t : Token} :
    Lexeme.front? (text.drop t.position) = some (t.lexeme, text.drop t.stop) ↔
      t.lexeme.chars <+: text.drop t.position ∧
      (∀ n, t.lexeme = .number n → IsNumber n.chars ∧
        ∀ longer, IsNumber longer → longer <+: text.drop t.position →
          longer.length ≤ n.chars.length) ∧
      (t.lexeme = .op .mul → text[t.stop]? ≠ some '*') := by
  have spelled : t.lexeme.chars <+: text.drop t.position ↔
      text.drop t.position = t.lexeme.chars ++ text.drop t.stop := by
    constructor
    · rintro ⟨rest, whole⟩
      rw [← whole, Token.stop, ← List.drop_drop, ← whole, List.drop_left]
    · exact fun whole => ⟨_, whole.symm⟩
  rw [Lexeme.front?_eq_some_iff, spelled]
  refine and_congr_right fun whole => ?_
  obtain ⟨lexeme, position⟩ := t
  cases lexeme with
  | number n =>
    simp only [Lexeme.number.injEq, forall_eq', n.isNumber_chars, true_and, reduceCtorEq,
      false_implies, and_true, Numeral.apart_iff]
    rw [whole]
    rfl
  | op o =>
    cases o with
    | mul =>
      simp only [reduceCtorEq, false_implies, implies_true, true_and, forall_const, Lexeme.Apart]
      rw [← List.head?_drop]
      cases behind : text.drop (Token.stop ⟨.op .mul, position⟩) <;> simp
    | _ => simp [Lexeme.Apart]
  | opening | closing => simp [Lexeme.Apart]

/-! ## Cutting from left to right -/

section Steps

variable {text : List Char} {start stop : Nat} {tokens : List Token} {c : Char}

theorem Cut.front? (cut : Cut text start stop tokens) {t : Token} (member : t ∈ tokens) :
    Lexeme.front? (text.drop t.position) = some (t.lexeme, text.drop t.stop) :=
  Token.front?_iff.2 ⟨cut.spelled t member, cut.number t member, cut.star t member⟩

theorem Token.position_lt_stop (t : Token) : t.position < t.stop :=
  Nat.lt_add_of_pos_right t.lexeme.length_chars_pos

theorem Cut.isBlank_eq_false (cut : Cut text start stop tokens) {t : Token} (member : t ∈ tokens)
    (here : text[t.position]? = some c) : isBlank c = false := by
  obtain ⟨rest, whole⟩ := cut.spelled t member
  obtain ⟨c', tail, chars⟩ := List.exists_cons_of_length_pos t.lexeme.length_chars_pos
  have first := congrArg List.head? whole
  rw [chars, List.head?_drop, here] at first
  obtain rfl := Option.some.inj first
  exact Lexeme.isBlank_of_mem_chars (by rw [chars]; exact .head _)

theorem cut_self : Cut text start start tokens ↔ tokens = [] := by
  constructor
  · intro cut
    refine List.eq_nil_iff_forall_not_mem.2 fun t member => ?_
    have inside := cut.inside t member
    have := t.position_lt_stop
    omega
  · rintro rfl
    exact ⟨Nat.le_refl _, .nil, nofun, nofun, fun i _ _ _ => by omega, nofun, nofun⟩

theorem cut_blank (here : text[start]? = some c) (blank : isBlank c = true)
    (before : start < stop) :
    Cut text start stop tokens ↔ Cut text (start + 1) stop tokens := by
  constructor
  · intro cut
    have later : ∀ t ∈ tokens, start + 1 ≤ t.position := by
      intro t member
      refine Nat.lt_of_le_of_ne (cut.inside t member).1 ?_
      rintro rfl
      rw [cut.isBlank_eq_false member here] at blank
      cases blank
    exact { cut with
      forward := before
      inside := fun t member => ⟨later t member, (cut.inside t member).2⟩
      blank := fun i c from_ => cut.blank i c (Nat.le_of_succ_le from_) }
  · intro cut
    refine { cut with
      forward := Nat.le_of_lt before
      inside := fun t member => ⟨Nat.le_of_succ_le (cut.inside t member).1, (cut.inside t member).2⟩
      blank := fun i c' from_ upTo here' free => ?_ }
    by_cases first : i = start
    · subst first
      rw [here] at here'
      cases here'
      exact blank
    · exact cut.blank i c' (by omega) upTo here' free

theorem Cut.exists_token (cut : Cut text start stop tokens) (here : text[start]? = some c)
    (visible : isBlank c = false) (before : start < stop) : ∃ t ∈ tokens, t.position = start := by
  refine Classical.byContradiction fun none => ?_
  have blank := cut.blank start c (Nat.le_refl _) before here fun t member => .inl <|
    Nat.lt_of_le_of_ne (cut.inside t member).1 fun same => none ⟨t, member, same.symm⟩
  rw [visible] at blank
  cases blank

/-- A character that is no blank begins the first token, and the rest is cut behind that. -/
theorem cut_lexeme {lexeme : Lexeme} (here : text[start]? = some c) (visible : isBlank c = false)
    (read : Lexeme.front? (text.drop start) =
      some (lexeme, text.drop (start + lexeme.chars.length)))
    (before : start < stop) :
    Cut text start stop tokens ↔
      ∃ others, tokens = ⟨lexeme, start⟩ :: others ∧
        Cut text (start + lexeme.chars.length) stop others := by
  constructor
  · intro cut
    obtain ⟨t, member, first⟩ := cut.exists_token here visible before
    cases tokens with
    | nil => cases member
    | cons t' others =>
      obtain ⟨behind, ordered⟩ := List.pairwise_cons.1 cut.ordered
      obtain rfl : t = t' := by
        rcases List.mem_cons.1 member with same | member
        · exact same
        · have := (behind t member).1
          have := (cut.inside t' (.head _)).1
          omega
      have same : t = ⟨lexeme, start⟩ := by
        have read' := cut.front? (.head _)
        rw [first, read] at read'
        obtain ⟨lexeme', position⟩ := t
        cases first
        simp only [Option.some.injEq, Prod.mk.injEq] at read'
        rw [read'.1]
      subst same
      refine ⟨others, rfl, ?_⟩
      exact {
        forward := (cut.inside _ (.head _)).2
        ordered := ordered
        inside := fun t member =>
          ⟨(behind t member).2, (cut.inside t (.tail _ member)).2⟩
        spelled := fun t member => cut.spelled t (.tail _ member)
        blank := fun i c from_ upTo here free =>
          cut.blank i c (Nat.le_trans (Nat.le_add_right ..) from_) upTo here fun t member => by
            rcases List.mem_cons.1 member with rfl | member
            · exact .inr from_
            · exact free t member
        number := fun t member => cut.number t (.tail _ member)
        star := fun t member => cut.star t (.tail _ member) }
  · rintro ⟨others, rfl, cut⟩
    obtain ⟨spelled, number, star⟩ := (@Token.front?_iff text ⟨lexeme, start⟩).1 read
    have later : ∀ t ∈ others, start < t.position ∧ start + lexeme.chars.length ≤ t.position := by
      intro t member
      have := (cut.inside t member).1
      have := lexeme.length_chars_pos
      omega
    exact {
      forward := Nat.le_trans (Nat.le_add_right ..) cut.forward
      ordered := List.pairwise_cons.2 ⟨later, cut.ordered⟩
      inside := List.forall_mem_cons.2 ⟨⟨Nat.le_refl _, cut.forward⟩, fun t member =>
        ⟨Nat.le_of_lt (later t member).1, (cut.inside t member).2⟩⟩
      spelled := List.forall_mem_cons.2 ⟨spelled, cut.spelled⟩
      blank := fun i c from_ upTo here free => by
        obtain ⟨outside, free⟩ := List.forall_mem_cons.1 free
        exact cut.blank i c (outside.resolve_left (Nat.not_lt.2 from_)) upTo here free
      number := List.forall_mem_cons.2 ⟨number, cut.number⟩
      star := List.forall_mem_cons.2 ⟨star, cut.star⟩ }

/-- A character is stray if no lexeme can be read from it on. -/
theorem strayAt_iff (here : text[start]? = some c) (visible : isBlank c = false) {c' : Char} :
    StrayAt text start c' ↔ c' = c ∧ Lexeme.front? (text.drop start) = none := by
  obtain ⟨rest, behind, next⟩ : ∃ rest, text.drop start = c :: rest ∧
      ∀ d, rest.head? = some d ↔ text[start + 1]? = some d := by
    obtain ⟨inside, rfl⟩ := List.getElem?_eq_some_iff.1 here
    refine ⟨_, List.drop_eq_getElem_cons inside, fun d => by rw [List.head?_drop]⟩
  rw [behind, Lexeme.front?_eq_none_iff]
  simp only [next]
  constructor
  · intro stray
    obtain rfl := Option.some.inj (stray.present.symm.trans here)
    refine ⟨rfl, stray.notDigit, ?_, stray.notPoint⟩
    have := stray.notOperator
    have := stray.notParenthesis
    simp_all [Lexeme.marks]
  · rintro ⟨rfl, notDigit, unmarked, notPoint⟩
    refine ⟨here, visible, notDigit, ?_, ?_, notPoint⟩ <;> simp_all [Lexeme.marks]

theorem Cut.lt_of_strayAt (cut : Cut text start stop tokens) (stray : StrayAt text stop c)
    (tidy : ¬ StrayAt text start c) : start < stop := by
  refine Nat.lt_of_le_of_ne cut.forward ?_
  rintro rfl
  exact tidy stray

end Steps

/-! ## What cutting comes to -/

/-- An outcome of cutting a text from a position on: the tokens are the only way of cutting it to its
end, and an error is about the only stray character that it can be cut up to. -/
structure CutsTo (text : List Char) (start : Nat) (outcome : Except SyntaxError (List Token)) :
    Prop where
  accepts : ∀ tokens, outcome = .ok tokens ↔ Cut text start text.length tokens
  rejects : ∀ error, outcome = .error error ↔
    ∃ c p tokens, error = .unexpectedCharacter c p ∧ Cut text start p tokens ∧ StrayAt text p c

namespace CutsTo

variable {text : List Char} {start : Nat} {outcome : Except SyntaxError (List Token)} {c : Char}

theorem nil : CutsTo text text.length (.ok []) where
  accepts tokens := by simp [cut_self, eq_comm]
  rejects error := by
    refine ⟨nofun, ?_⟩
    rintro ⟨c, p, tokens, -, cut, stray⟩
    have := (List.getElem?_eq_some_iff.1 stray.present).1
    have := cut.forward
    omega

theorem blank (here : text[start]? = some c) (blank : isBlank c = true)
    (rest : CutsTo text (start + 1) outcome) : CutsTo text start outcome where
  accepts tokens := by
    rw [rest.accepts, cut_blank here blank (List.getElem?_eq_some_iff.1 here).1]
  rejects error := by
    rw [rest.rejects]
    refine exists_congr fun c' => exists_congr fun p => exists_congr fun tokens => ?_
    refine and_congr_right fun _ => and_congr_left fun stray => ?_
    have tidy : ¬ StrayAt text start c' := by
      intro stray
      obtain rfl := Option.some.inj (stray.present.symm.trans here)
      rw [stray.notBlank] at blank
      cases blank
    exact ⟨fun cut => (cut_blank here blank cut.forward).2 cut,
      fun cut => (cut_blank here blank (cut.lt_of_strayAt stray tidy)).1 cut⟩

theorem stray (here : text[start]? = some c) (visible : isBlank c = false)
    (none : Lexeme.front? (text.drop start) = none) :
    CutsTo text start (.error (.unexpectedCharacter c start)) := by
  have nothing : ∀ {stop tokens}, start < stop → ¬ Cut text start stop tokens := by
    intro stop tokens before cut
    obtain ⟨t, member, first⟩ := cut.exists_token here visible before
    have read := cut.front? member
    rw [first, none] at read
    cases read
  constructor
  · exact fun tokens => ⟨nofun, fun cut =>
      absurd cut (nothing (List.getElem?_eq_some_iff.1 here).1)⟩
  · intro error
    constructor
    · rintro ⟨⟩
      exact ⟨c, start, [], rfl, cut_self.2 rfl, (strayAt_iff here visible).2 ⟨rfl, none⟩⟩
    · rintro ⟨c', p, tokens, rfl, cut, stray⟩
      obtain rfl : start = p := Nat.le_antisymm cut.forward <|
        Nat.not_lt.1 fun before => nothing before cut
      rw [((strayAt_iff here visible).1 stray).1]

theorem lexeme {lexeme : Lexeme} (here : text[start]? = some c) (visible : isBlank c = false)
    (read : Lexeme.front? (text.drop start) =
      some (lexeme, text.drop (start + lexeme.chars.length)))
    (rest : CutsTo text (start + lexeme.chars.length) outcome) :
    CutsTo text start (outcome.map (⟨lexeme, start⟩ :: ·)) where
  accepts tokens := by
    rw [cut_lexeme here visible read (List.getElem?_eq_some_iff.1 here).1]
    simp only [← rest.accepts]
    cases outcome with
    | error e => simp [Except.map]
    | ok others => simp [Except.map, eq_comm]
  rejects error := by
    have same : outcome.map (⟨lexeme, start⟩ :: ·) = .error error ↔ outcome = .error error := by
      cases outcome <;> simp [Except.map]
    rw [same, rest.rejects]
    have tidy : ∀ c', ¬ StrayAt text start c' := by
      intro c' stray
      rw [((strayAt_iff here visible).1 stray).2] at read
      cases read
    refine exists_congr fun c' => exists_congr fun p => ?_
    constructor
    · rintro ⟨tokens, rfl, cut, stray⟩
      have before := Nat.lt_of_lt_of_le (Nat.lt_add_of_pos_right lexeme.length_chars_pos) cut.forward
      exact ⟨_, rfl, (cut_lexeme here visible read before).2 ⟨tokens, rfl, cut⟩, stray⟩
    · rintro ⟨tokens, rfl, cut, stray⟩
      obtain ⟨others, rfl, behind⟩ :=
        (cut_lexeme here visible read (cut.lt_of_strayAt stray (tidy _))).1 cut
      exact ⟨others, rfl, behind, stray⟩

end CutsTo

theorem tokenizeFrom_cutsTo {position : Nat} {whole text : List Char}
    (behind : whole.drop position = text) (within : position ≤ whole.length) :
    CutsTo whole position (tokenizeFrom position text) := by
  have front {position : Nat} {c : Char} {text : List Char}
      (behind : whole.drop position = c :: text) : whole[position]? = some c := by
    rw [← List.head?_drop, behind, List.head?_cons]
  have further {position : Nat} {lexeme : Lexeme} {rest : List Char}
      (read : Lexeme.front? (whole.drop position) = some (lexeme, rest)) :
      whole.drop (position + lexeme.chars.length) = rest ∧
        position + lexeme.chars.length ≤ whole.length := by
    have spelled := Lexeme.front?_eq_some read
    refine ⟨by rw [← List.drop_drop, spelled, List.drop_left], ?_⟩
    have lengths := congrArg List.length spelled
    have := lexeme.length_chars_pos
    simp only [List.length_drop, List.length_append] at lengths
    omega
  fun_induction tokenizeFrom position text with
  | case1 position =>
    obtain rfl : position = whole.length := Nat.le_antisymm within (List.drop_eq_nil_iff.1 behind)
    exact .nil
  | case2 position c text blank ih =>
    have here := front behind
    refine .blank here blank (ih ?_ (List.getElem?_eq_some_iff.1 here).1)
    rw [← List.drop_drop, behind, List.drop_one, List.tail_cons]
  | case3 position c text visible none =>
    exact .stray (front behind) (by simpa using visible) (by rw [behind, none])
  | case4 position c text visible lexeme rest read error rejected ih =>
    rw [← behind] at read
    obtain ⟨remains, inside⟩ := further read
    have cut := CutsTo.lexeme (front behind) (by simpa using visible) (by rw [read, remains])
      (ih remains inside)
    rwa [rejected] at cut
  | case5 position c text visible lexeme rest read tokens accepted ih =>
    rw [← behind] at read
    obtain ⟨remains, inside⟩ := further read
    have cut := CutsTo.lexeme (front behind) (by simpa using visible) (by rw [read, remains])
      (ih remains inside)
    rwa [accepted] at cut

/-! ## Blanks between tokens -/

theorem Lexeme.Apart.insert {lexeme : Lexeme} {front blanks back : List Char}
    (apart : lexeme.Apart (front ++ back)) (blank : ∀ c ∈ blanks, isBlank c = true) :
    lexeme.Apart (front ++ (blanks ++ back)) := by
  cases front with
  | cons c front =>
    -- Only the first character counts, and it is still the same.
    cases lexeme with
    | number n =>
      rintro _ _ ⟨⟩
      exact apart c (front ++ back) rfl
    | op o =>
      cases o with
      | mul =>
        rintro _ ⟨⟩
        exact apart (front ++ back) rfl
      | _ => trivial
    | opening | closing => trivial
  | nil =>
    cases blanks with
    | nil => exact apart
    | cons c blanks =>
      have first : isBlank c = true := blank c (.head _)
      cases lexeme with
      | number n =>
        rintro _ _ ⟨⟩
        constructor
        · refine Option.eq_none_iff_forall_ne_some.2 fun d read => ?_
          rw [← Digit.toChar_of_ofChar? read, Text.isBlank_toChar] at first
          cases first
        · rintro rfl
          exact absurd first (by decide)
      | op o =>
        cases o with
        | mul =>
          rintro _ ⟨⟩
          exact absurd first (by decide)
        | _ => trivial
      | opening | closing => trivial

/-- A token of a text in which some characters were inserted at a position. -/
def Token.shift (start count : Nat) (t : Token) : Token :=
  if t.position < start then t else { t with position := t.position + count }

theorem le_position_of_tokenizeFrom {position : Nat} {text : List Char} {tokens : List Token}
    (cut : tokenizeFrom position text = .ok tokens) : ∀ t ∈ tokens, position ≤ t.position := by
  fun_induction tokenizeFrom position text generalizing tokens with
  | case1 =>
    cases cut
    exact fun t member => absurd member List.not_mem_nil
  | case2 position c text blank ih => exact fun t member => Nat.le_of_succ_le (ih cut t member)
  | case3 | case4 => cases cut
  | case5 position c text visible lexeme rest read tokens' cut' ih =>
    cases cut
    exact List.forall_mem_cons.2 ⟨Nat.le_refl _, fun t member =>
      Nat.le_trans (Nat.le_add_right ..) (ih cut' t member)⟩

theorem tokenizeFrom_of_isBlank {c : Char} (blank : isBlank c = true) (position : Nat)
    (text : List Char) : tokenizeFrom position (c :: text) = tokenizeFrom (position + 1) text := by
  rw [tokenizeFrom.eq_def]
  simp only [blank, if_true]

theorem tokenizeFrom_add {position : Nat} {text : List Char} {tokens : List Token}
    (cut : tokenizeFrom position text = .ok tokens) (count : Nat) :
    tokenizeFrom (position + count) text =
      .ok (tokens.map fun t => ⟨t.lexeme, t.position + count⟩) := by
  fun_induction tokenizeFrom position text generalizing tokens with
  | case1 => cases cut; rw [tokenizeFrom.eq_def]; rfl
  | case2 position c text blank ih =>
    rw [tokenizeFrom_of_isBlank blank, Nat.add_right_comm]
    exact ih cut
  | case3 | case4 => cases cut
  | case5 position c text visible lexeme rest read tokens' cut' ih =>
    cases cut
    exact tokenizeFrom_lexeme read (by rw [Nat.add_right_comm]; exact ih cut')

theorem tokenizeFrom_blanks {blanks : List Char} (blank : ∀ c ∈ blanks, isBlank c = true)
    {position : Nat} {text : List Char} {tokens : List Token}
    (cut : tokenizeFrom position text = .ok tokens) :
    tokenizeFrom position (blanks ++ text) =
      .ok (tokens.map (·.shift position blanks.length)) := by
  have skip : tokenizeFrom position (blanks ++ text) =
      tokenizeFrom (position + blanks.length) text := by
    clear cut
    induction blanks generalizing position with
    | nil => rfl
    | cons c blanks ih =>
      obtain ⟨first, others⟩ := List.forall_mem_cons.1 blank
      rw [List.cons_append, tokenizeFrom_of_isBlank first, ih others, List.length_cons,
        Nat.add_right_comm, Nat.add_assoc]
  rw [skip, tokenizeFrom_add cut]
  congr 1
  refine List.map_congr_left fun t member => ?_
  have behind := le_position_of_tokenizeFrom cut t member
  rw [Token.shift, if_neg (Nat.not_lt.2 behind)]

/-- Blanks that are inserted between tokens only move those behind them. -/
theorem tokenizeFrom_insert {blanks : List Char} (blank : ∀ c ∈ blanks, isBlank c = true)
    {position : Nat} {front back : List Char} {tokens : List Token}
    (cut : tokenizeFrom position (front ++ back) = .ok tokens)
    (between : ∀ t ∈ tokens,
      t.stop ≤ position + front.length ∨ position + front.length ≤ t.position) :
    tokenizeFrom position (front ++ (blanks ++ back)) =
      .ok (tokens.map (·.shift (position + front.length) blanks.length)) := by
  generalize whole : front ++ back = text at cut
  fun_induction tokenizeFrom position text generalizing front tokens with
  | case1 position =>
    obtain ⟨rfl, rfl⟩ := List.append_eq_nil_iff.1 whole
    exact tokenizeFrom_blanks blank (by rw [tokenizeFrom.eq_def]; exact cut)
  | case2 position c text blank' ih =>
    cases front with
    | nil =>
      rw [← tokenizeFrom_of_isBlank blank', ← whole] at cut
      exact tokenizeFrom_blanks blank cut
    | cons c' front =>
      cases whole
      have place : position + (c :: front).length = position + 1 + front.length := by
        rw [List.length_cons, Nat.add_right_comm, Nat.add_assoc]
      rw [place] at between ⊢
      rw [List.cons_append, tokenizeFrom_of_isBlank blank']
      exact ih between rfl cut
  | case3 | case4 => cases cut
  | case5 position c text visible lexeme rest read tokens' cut' ih =>
    cases cut
    cases front with
    | nil =>
      rw [← whole] at read
      exact tokenizeFrom_blanks blank (tokenizeFrom_lexeme read cut')
    | cons c' front =>
      obtain ⟨outside, between⟩ := List.forall_mem_cons.1 between
      have reaches : lexeme.chars.length ≤ (c' :: front).length := by
        simp only [Token.stop, List.length_cons] at outside ⊢
        omega
      have spelled := whole.trans (Lexeme.front?_eq_some read)
      -- The lexeme is in front of the place, which is then a place in what follows the lexeme.
      obtain ⟨others, prefixed⟩ : lexeme.chars <+: c' :: front :=
        List.prefix_of_prefix_length_le ⟨rest, spelled.symm⟩ (List.prefix_append ..) reaches
      rw [← prefixed, List.append_assoc, List.append_cancel_left_eq] at spelled
      have place : position + (c' :: front).length =
          position + lexeme.chars.length + others.length := by
        rw [← prefixed, List.length_append, Nat.add_assoc]
      rw [place] at between ⊢
      have behind := ih between spelled cut'
      have apart : lexeme.Apart (others ++ back) := spelled ▸ Lexeme.apart_of_front? read
      rw [← prefixed, List.append_assoc, List.map_cons]
      have stays : (⟨lexeme, position⟩ : Token).shift
          (position + lexeme.chars.length + others.length) blanks.length = ⟨lexeme, position⟩ := by
        have := lexeme.length_chars_pos
        exact if_pos (by simp only; omega)
      rw [stays]
      exact tokenizeFrom_lexeme (Lexeme.front?_append (apart.insert blank)) behind

/-! ## Main result -/

/-- What a text is cut into. If there are tokens, they are the only ones that stand in the text in
order, spelled where they are and as long as they can be, with nothing but blanks between them. If
there are none, the text is cut in the same way up to the only place where neither a blank nor a
token starts, and that is what is reported. Blanks can be inserted wherever they do not tear a token
apart. -/
theorem tokenize_exact (text : List Char) :
    (∀ tokens, tokenize text = .ok tokens ↔ Cut text 0 text.length tokens) ∧
    (∀ error, tokenize text = .error error ↔
      ∃ c p tokens, error = .unexpectedCharacter c p ∧ Cut text 0 p tokens ∧ StrayAt text p c) ∧
    (∀ tokens, tokenize text = .ok tokens → ∀ front blanks back, text = front ++ back →
      (∀ c ∈ blanks, isBlank c = true) →
      (∀ t ∈ tokens, t.stop ≤ front.length ∨ front.length ≤ t.position) →
      tokenize (front ++ blanks ++ back) = .ok (tokens.map (·.shift front.length blanks.length)) ∧
        (tokens.map (·.shift front.length blanks.length)).map Token.lexeme =
          tokens.map Token.lexeme) := by
  have cuts : CutsTo text 0 (tokenize text) := tokenizeFrom_cutsTo rfl (Nat.zero_le _)
  refine ⟨cuts.accepts, cuts.rejects, ?_⟩
  rintro tokens cut front blanks back rfl blank between
  constructor
  · have moved := tokenizeFrom_insert blank cut (by simpa using between)
    rwa [Nat.zero_add, ← List.append_assoc] at moved
  · rw [List.map_map]
    refine List.map_congr_left fun t _ => ?_
    rw [Function.comp_apply, Token.shift]
    split <;> rfl

/-- Points and stars that stand side by side are told apart, and still are with blanks between. -/
theorem tokenize_exact_points_and_stars :
    let whole : Numeral := .mixed ⟨1, []⟩ []
    let fraction : Numeral := .fraction ⟨5, []⟩
    tokenize "1..5***2".toList =
        .ok [⟨.number whole, 0⟩, ⟨.number fraction, 2⟩, ⟨.op .pow, 4⟩, ⟨.op .mul, 6⟩,
          ⟨.number (.integer ⟨2, []⟩), 7⟩] ∧
      tokenize "1.\t .5***2".toList =
        .ok [⟨.number whole, 0⟩, ⟨.number fraction, 4⟩, ⟨.op .pow, 6⟩, ⟨.op .mul, 8⟩,
          ⟨.number (.integer ⟨2, []⟩), 9⟩] := by
  intro whole fraction
  have cut : tokenize "1..5***2".toList =
      .ok [⟨.number whole, 0⟩, ⟨.number fraction, 2⟩, ⟨.op .pow, 4⟩, ⟨.op .mul, 6⟩,
        ⟨.number (.integer ⟨2, []⟩), 7⟩] := by decide +kernel
  have blank : ∀ c ∈ ['\t', ' '], isBlank c = true := List.all_eq_true.1 (by decide)
  obtain ⟨_, _, spaced⟩ := tokenize_exact "1..5***2".toList
  exact ⟨cut, (spaced _ cut "1.".toList ['\t', ' '] ".5***2".toList (by decide +kernel) blank
    (by decide +kernel)).1⟩

end Reckoner
