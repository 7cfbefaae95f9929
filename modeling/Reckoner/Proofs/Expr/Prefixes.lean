import Reckoner.Proofs.Expr.Parsing
import Reckoner.Proofs.Expr.Refusals

/-!
# Fronts of accepted token lists

A parser that reports the first token which cannot stand where it does has to hold two promises.
What stands before the token is the front of something that is accepted, and nothing behind the
token was looked at.

* `Awaits` describes the fronts of constructs that end where an operand begins. Every such front can
  be completed within the levels that are allowed, `Awaits.exists_completion`.
* A reader that has read a construct has seen no more than one token behind it, `Settles`, and a
  reader that misses an operand has read such a front and has seen no more than the token that
  stands there, `BreaksOff`.

`error_at_first_offending_token` puts them together. Its other half is about tokens that are left
over, where everything before them is accepted as it stands.
-/

namespace Reckoner.Expr

open SyntaxError (noOperand)

/-! ## Fronts -/

/-- `Awaits construct levels front` says that the lexemes are the front of a construct, up to a
place where an operand has to follow, and that neither this place nor any other part of the front
lies more than `levels` levels below the construct. -/
inductive Awaits : Construct → Nat → List Lexeme → Prop where
  | here {levels} : Awaits .primary levels []
  | content {levels front} : Awaits .sum levels front →
      Awaits .primary (levels + 1) (.opening :: front)
  | base {levels front} : Awaits .primary levels front → Awaits .power levels front
  | exponent {o levels before base depth front} : o.isPower = true →
      Derives .primary before base depth → depth ≤ levels + 1 → Awaits .operand levels front →
      Awaits .power (levels + 1) (before ++ .op o :: front)
  | unsigned {levels front} : Awaits .power levels front → Awaits .operand levels front
  | signed {o sign levels front} : o.sign? = some sign → Awaits .operand levels front →
      Awaits .operand (levels + 1) (.op o :: front)
  | operand {levels front} : Awaits .operand levels front → Awaits .term levels front
  | nextOperand {o levels before left depth front} : o.isMultiplicative = true →
      Derives .term before left depth → depth ≤ levels → Awaits .operand levels front →
      Awaits .term levels (before ++ .op o :: front)
  | term {levels front} : Awaits .term levels front → Awaits .sum levels front
  | nextTerm {o levels before left depth front} : o.isAdditive = true →
      Derives .sum before left depth → depth ≤ levels → Awaits .term levels front →
      Awaits .sum levels (before ++ .op o :: front)

/-- A numeral in the place of the missing operand and the parentheses that are still open complete a
front. -/
theorem Awaits.exists_completion {construct : Construct} {levels : Nat} {front : List Lexeme}
    (awaits : Awaits construct levels front) :
    ∃ completion tree depth, completion ≠ [] ∧ depth ≤ levels ∧
      Derives construct (front ++ completion) tree depth := by
  induction awaits with
  | here => exact ⟨[.number (.integer ⟨1, []⟩)], _, 0, by simp, Nat.zero_le _, .number⟩
  | content _ ih =>
    obtain ⟨completion, tree, depth, _, bound, derives⟩ := ih
    refine ⟨completion ++ [.closing], tree, depth + 1, by simp, by omega, ?_⟩
    simpa using derives.parenthesized
  | base _ ih =>
    obtain ⟨completion, tree, depth, nonempty, bound, derives⟩ := ih
    exact ⟨completion, tree, depth, nonempty, bound, derives.primary⟩
  | @exponent o levels before base depth front raises head bound _ ih =>
    obtain ⟨completion, tree, depth', nonempty, bound', derives⟩ := ih
    refine ⟨completion, .binary o base tree, max depth (depth' + 1), nonempty, by omega, ?_⟩
    simpa using head.raised raises derives
  | unsigned _ ih =>
    obtain ⟨completion, tree, depth, nonempty, bound, derives⟩ := ih
    exact ⟨completion, tree, depth, nonempty, bound, derives.power⟩
  | @signed o sign levels front signs _ ih =>
    obtain ⟨completion, tree, depth, nonempty, bound, derives⟩ := ih
    exact ⟨completion, .signed sign tree, depth + 1, nonempty, by omega, derives.signed signs⟩
  | operand _ ih =>
    obtain ⟨completion, tree, depth, nonempty, bound, derives⟩ := ih
    exact ⟨completion, tree, depth, nonempty, bound, derives.operand⟩
  | @nextOperand o levels before left depth front multiplies head bound _ ih =>
    obtain ⟨completion, tree, depth', nonempty, bound', derives⟩ := ih
    refine ⟨completion, .binary o left tree, max depth depth', nonempty, by omega, ?_⟩
    simpa using head.joinOperand multiplies derives
  | term _ ih =>
    obtain ⟨completion, tree, depth, nonempty, bound, derives⟩ := ih
    exact ⟨completion, tree, depth, nonempty, bound, derives.term⟩
  | @nextTerm o levels before left depth front adds head bound _ ih =>
    obtain ⟨completion, tree, depth', nonempty, bound', derives⟩ := ih
    refine ⟨completion, .binary o left tree, max depth depth', nonempty, by omega, ?_⟩
    simpa using head.joinTerm adds derives

/-! ## What readers leave -/

theorem Stops.of_head? {joins : Op → Bool} {tokens tokens' : List Token}
    (stops : Stops joins tokens) (same : tokens'.head? = tokens.head?) : Stops joins tokens' := by
  rintro o position rest rfl
  cases tokens with
  | nil => cases same
  | cons token rest' =>
    cases same
    exact stops o position rest' rfl

/-- Either a chain ends here, or one of its operators follows. -/
theorem stops_or_goes_on (joins : Op → Bool) (tokens : List Token) :
    Stops joins tokens ∨
      ∃ o position tail, joins o = true ∧ tokens = ⟨.op o, position⟩ :: tail := by
  match tokens with
  | [] => exact .inl (stops_nil joins)
  | ⟨.op o, position⟩ :: tail =>
    by_cases joined : joins o = true
    · exact .inr ⟨o, position, tail, joined, rfl⟩
    · exact .inl (stops_op (by simpa using joined) position tail)
  | ⟨.number _, _⟩ :: _ | ⟨.opening, _⟩ :: _ | ⟨.closing, _⟩ :: _ =>
    exact .inl (by rintro _ _ _ ⟨⟩)

section Leaving

variable {joins leaves : Op → Bool} {item : Reader} {left tree : Expr} {tokens rest : List Token}

/-- Behind a reader no operator of the class follows. -/
def Leaves (reader : Reader) (joins : Op → Bool) : Prop :=
  ∀ tokens tree rest, Reads reader tokens tree rest → Stops joins rest

theorem Reads.length_lt {reader : Reader} (reads : Reads reader tokens tree rest) :
    rest.length < tokens.length :=
  reads.1

theorem stops_of_readsOn (itemLeaves : Leaves item leaves) (stops : Stops leaves tokens)
    (reads : ReadsOn joins item left tokens tree rest) : Stops joins rest ∧ Stops leaves rest := by
  induction size : tokens.length using Nat.strongRecOn generalizing left tokens with
  | ind n ih =>
    subst size
    rcases stops_or_goes_on joins tokens with ends | ⟨o, position, tail, joined, rfl⟩
    · obtain ⟨rfl, rfl⟩ := (readsOn_of_stops ends).1 reads
      exact ⟨ends, stops⟩
    · obtain ⟨right, middle, head, continued⟩ := (readsOn_cons joined).1 reads
      have shorter : middle.length < tail.length + 1 := Nat.lt_succ_of_lt head.length_lt
      exact ih middle.length shorter (itemLeaves _ _ _ head) continued rfl

theorem stops_of_reads_chain (itemLeaves : Leaves item leaves)
    (reads : Reads (chain joins item) tokens tree rest) : Stops joins rest ∧ Stops leaves rest := by
  obtain ⟨left, middle, head, continued⟩ := reads_chain.1 reads
  exact stops_of_readsOn itemLeaves (itemLeaves _ _ _ head) continued

theorem leaves_operandAbove {inner : Option Reader}
    (below : ∀ reader, inner = some reader → Leaves reader Op.isPower) :
    Leaves (operandAbove inner) Op.isPower := by
  intro tokens tree rest reads
  rcases reads_operandAbove.1 reads with
    ⟨reader, _, _, _, _, _, lower, _, _, operand, _⟩ | ⟨_, unsigned⟩
  · exact below reader lower _ _ _ operand
  · rcases reads_power.1 unsigned with
      ⟨_, stops⟩ | ⟨reader, _, _, _, _, _, lower, _, _, exponent, _⟩
    · exact stops
    · exact below reader lower _ _ _ exponent

theorem leaves_operand (levels : Nat) : Leaves (operand levels) Op.isPower := by
  induction levels with
  | zero => exact leaves_operandAbove (by rintro _ ⟨⟩)
  | succ lower ih => exact leaves_operandAbove (by rintro _ ⟨⟩; exact ih)

theorem leaves_term (levels : Nat) :
    Leaves (chain Op.isMultiplicative (operand levels)) Op.isMultiplicative ∧
      Leaves (chain Op.isMultiplicative (operand levels)) Op.isPower := by
  constructor
  · exact fun _ _ _ reads => (stops_of_reads_chain (leaves_operand levels) reads).1
  · exact fun _ _ _ reads => (stops_of_reads_chain (leaves_operand levels) reads).2

end Leaving

/-- What a reader has read is a construct, and it reads this again whatever else stands behind the
same next token. -/
def Settles (reader : Reader) (construct : Construct) (levels : Nat) : Prop :=
  ∀ tokens tree rest, Reads reader tokens tree rest →
    ∃ consumed depth, tokens = consumed ++ rest ∧ depth ≤ levels ∧
      Derives construct (consumed.map Token.lexeme) tree depth ∧
      ∀ rest', rest'.head? = rest.head? → Reads reader (consumed ++ rest') tree rest'

theorem soundBelow_lower (levels : Nat) : SoundBelow (lower levels) levels := by
  cases levels with
  | zero => rintro _ ⟨⟩
  | succ lower => rintro _ ⟨⟩; exact ⟨lower, rfl, sound_operand lower⟩

theorem settles_primary (levels : Nat) : Settles (primary (lower levels)) .primary levels := by
  intro tokens tree rest reads
  obtain ⟨consumed, depth, rfl, bound, derives⟩ :=
    sound_primary (soundBelow_lower levels) _ _ _ reads
  have arrives := arrives_of_derives derives levels consumed bound rfl
  exact ⟨consumed, depth, rfl, bound, derives, fun rest' _ => arrives rest'⟩

theorem settles_operand (levels : Nat) : Settles (operand levels) .operand levels := by
  intro tokens tree rest reads
  have stops := leaves_operand levels _ _ _ reads
  obtain ⟨consumed, depth, rfl, bound, derives⟩ := sound_operand levels _ _ _ reads
  have arrives := arrives_of_derives derives levels consumed bound rfl
  exact ⟨consumed, depth, rfl, bound, derives,
    fun rest' same => arrives rest' (stops.of_head? same)⟩

theorem settles_term (levels : Nat) :
    Settles (chain Op.isMultiplicative (operand levels)) .term levels := by
  intro tokens tree rest reads
  have multiplies := (leaves_term levels).1 _ _ _ reads
  have raises := (leaves_term levels).2 _ _ _ reads
  obtain ⟨consumed, depth, rfl, bound, derives⟩ :=
    sound_chain .joinOperand .operand (sound_operand levels) _ _ _ reads
  have arrives := arrives_of_derives derives levels consumed bound rfl
  refine ⟨consumed, depth, rfl, bound, derives, fun rest' same => ?_⟩
  exact arrives.reads_term (multiplies.of_head? same) (raises.of_head? same)

theorem settles_sum (levels : Nat) : Settles (sum (operand levels)) .sum levels := by
  intro tokens tree rest reads
  obtain ⟨adds, multiplies⟩ := stops_of_reads_chain (leaves_term levels).1 reads
  obtain ⟨_, raises⟩ := stops_of_reads_chain (leaves_term levels).2 reads
  obtain ⟨consumed, depth, rfl, bound, derives⟩ := sound_sum (sound_operand levels) _ _ _ reads
  have arrives := arrives_of_derives derives levels consumed bound rfl
  refine ⟨consumed, depth, rfl, bound, derives, fun rest' same => ?_⟩
  exact arrives rest' tree rest' (multiplies.of_head? same) (raises.of_head? same)
    ((readsOn_of_stops (adds.of_head? same)).2 ⟨rfl, rfl⟩)

/-! ## Where readers break off -/

/-- Up to some place the tokens are a front, and whatever else stands behind the next token there is
refused in the same way. -/
def BreaksAt (next? : Option Token) (isFront : List Lexeme → Prop) (refuses : List Token → Prop)
    (tokens : List Token) : Prop :=
  ∃ before behind, tokens = before ++ behind ∧ behind.head? = next? ∧
    isFront (before.map Token.lexeme) ∧
    ∀ behind', behind'.head? = next? → refuses (before ++ behind')

/-- The place stays the same when more is read in front of it. -/
theorem BreaksAt.extend {next? : Option Token} {isFront isFront' : List Lexeme → Prop}
    {refuses refuses' : List Token → Prop} {tokens : List Token}
    (breaks : BreaksAt next? isFront refuses tokens) (consumed : List Token)
    (front : ∀ {lexemes}, isFront lexemes → isFront' (consumed.map Token.lexeme ++ lexemes))
    (refused : ∀ tokens', tokens'.head? = tokens.head? → refuses tokens' →
      refuses' (consumed ++ tokens')) :
    BreaksAt next? isFront' refuses' (consumed ++ tokens) := by
  obtain ⟨before, behind, rfl, rfl, isFront, again⟩ := breaks
  refine ⟨consumed ++ before, behind, by simp, rfl, by simpa using front isFront, ?_⟩
  intro behind' same
  have unseen : (before ++ behind').head? = (before ++ behind).head? := by
    simp [List.head?_append, same]
  simpa using refused _ unseen (again behind' same)

/-- A reader that misses an operand has read the front of a construct up to there, and it has looked
no further than the token in the place of the operand. -/
def BreaksOff (reader : Reader) (construct : Construct) (levels : Nat) : Prop :=
  ∀ tokens next?, reader tokens = .error (noOperand next?) →
    BreaksAt next? (Awaits construct levels) (reader · = .error (noOperand next?)) tokens

section Chains

variable {joins : Op → Bool} {outer construct : Construct} {item : Reader} {levels : Nat}
  (join : Joins joins outer construct) (settles : Settles item construct levels)
  (breaks : BreaksOff item construct levels)
  (next : ∀ {o read left depth front}, joins o = true → Derives outer read left depth →
    depth ≤ levels → Awaits construct levels front → Awaits outer levels (read ++ .op o :: front))

include join settles breaks next

theorem breaksOff_chainFrom {read : List Lexeme} {left : Expr} {tokens : List Token} {depth : Nat}
    {next? : Option Token} (derives : Derives outer read left depth) (bound : depth ≤ levels)
    (refused : chainFrom joins item left tokens = .error (noOperand next?)) :
    BreaksAt next? (fun lexemes => Awaits outer levels (read ++ lexemes))
      (chainFrom joins item left · = .error (noOperand next?)) tokens := by
  induction size : tokens.length using Nat.strongRecOn generalizing read left tokens depth with
  | ind n ih =>
    subst size
    rcases stops_or_goes_on joins tokens with ends | ⟨o, position, tail, joined, rfl⟩
    · exact absurd refused (chainFrom_ne_error ends)
    · rcases (chainFrom_cons_eq_error joined).1 refused with
        missing | ⟨right, middle, head, continued⟩
      · refine (breaks _ _ missing).extend [⟨.op o, position⟩] (next joined derives bound) ?_
        intro tokens' _ missing
        exact (chainFrom_cons_eq_error joined).2 (.inl missing)
      · have shorter : middle.length < tail.length + 1 := Nat.lt_succ_of_lt head.length_lt
        obtain ⟨consumed, depth', rfl, bound', derives', rereads⟩ := settles _ _ _ head
        have later :=
          ih middle.length shorter (join joined derives derives') (by omega) continued rfl
        refine later.extend (⟨.op o, position⟩ :: consumed) (by simp) ?_
        intro tokens' same continued
        exact (chainFrom_cons_eq_error joined).2 (.inr ⟨right, _, rereads tokens' same, continued⟩)

theorem breaksOff_chain
    (single : ∀ {lexemes tree depth}, Derives construct lexemes tree depth →
      Derives outer lexemes tree depth)
    (first : ∀ {front}, Awaits construct levels front → Awaits outer levels front) :
    BreaksOff (chain joins item) outer levels := by
  intro tokens next? refused
  rcases chain_eq_error.1 refused with missing | ⟨left, middle, head, continued⟩
  · refine (breaks _ _ missing).extend [] first ?_
    intro tokens' _ missing
    exact chain_eq_error.2 (.inl missing)
  · obtain ⟨consumed, depth, rfl, bound, derives, rereads⟩ := settles _ _ _ head
    have later := breaksOff_chainFrom join settles breaks next (single derives) bound continued
    refine later.extend consumed id ?_
    intro tokens' same continued
    exact chain_eq_error.2 (.inr ⟨left, _, rereads tokens' same, continued⟩)

end Chains

theorem breaksOff_sum {levels : Nat} (breaks : BreaksOff (operand levels) .operand levels) :
    BreaksOff (sum (operand levels)) .sum levels :=
  breaksOff_chain .joinTerm (settles_term levels)
    (breaksOff_chain .joinOperand (settles_operand levels) breaks .nextOperand .operand .operand)
    .nextTerm .term .term

/-- What the readers may expect of the level below. -/
def BreaksOffBelow (levels : Nat) : Prop :=
  ∀ reader, lower levels = some reader →
    ∃ lower, levels = lower + 1 ∧ reader = operand lower ∧ BreaksOff reader .operand lower

section Operands

variable {levels : Nat} (below : BreaksOffBelow levels)

include below

theorem breaksOff_primary : BreaksOff (primary (lower levels)) .primary levels := by
  intro tokens next? refused
  rcases primary_eq_noOperand.1 refused with
    ⟨here, misplaced⟩ | ⟨reader, position, content, found, rfl, missing⟩
  · refine ⟨[], tokens, rfl, here, .here, ?_⟩
    intro behind' same
    exact primary_eq_noOperand.2 (.inl ⟨same, misplaced⟩)
  · obtain ⟨lower, rfl, rfl, breaks⟩ := below reader found
    refine (breaksOff_sum breaks _ _ missing).extend [⟨.opening, position⟩] .content ?_
    intro content' _ missing
    exact primary_eq_noOperand.2 (.inr ⟨_, position, _, found, rfl, missing⟩)

theorem breaksOff_power : BreaksOff (power (lower levels)) .power levels := by
  intro tokens next? refused
  rcases power_eq_error.1 refused with missing | ⟨base, o, position, rest, raises, head, inside⟩
  · refine (breaksOff_primary below _ _ missing).extend [] .base ?_
    intro tokens' _ missing
    exact power_eq_error.2 (.inl missing)
  · obtain ⟨reader, found, missing⟩ := descend_eq_noOperand.1 inside
    obtain ⟨lower, rfl, rfl, breaks⟩ := below reader found
    obtain ⟨consumed, depth, rfl, bound, derives, rereads⟩ := settles_primary _ _ _ _ head
    rw [List.append_cons]
    refine (breaks _ _ missing).extend (consumed ++ [⟨.op o, position⟩]) ?_ ?_
    · intro lexemes awaits
      simpa using Awaits.exponent raises derives bound awaits
    · intro tokens' _ missing
      rw [← List.append_cons]
      exact power_eq_error.2 (.inr ⟨base, o, position, _, raises, rereads _ rfl,
        descend_eq_noOperand.2 ⟨_, found, missing⟩⟩)

theorem breaksOff_operandAbove : BreaksOff (operandAbove (lower levels)) .operand levels := by
  intro tokens next? refused
  rcases operandAbove_eq_error.1 refused with
    ⟨o, sign, position, rest, signs, rfl, inside⟩ | ⟨stops, missing⟩
  · obtain ⟨reader, found, missing⟩ := descend_eq_noOperand.1 inside
    obtain ⟨lower, rfl, rfl, breaks⟩ := below reader found
    refine (breaks _ _ missing).extend [⟨.op o, position⟩] (.signed signs) ?_
    intro tokens' _ missing
    exact operandAbove_eq_error.2 (.inl ⟨o, sign, position, _, signs, rfl,
      descend_eq_noOperand.2 ⟨_, found, missing⟩⟩)
  · refine (breaksOff_power below _ _ missing).extend [] .unsigned ?_
    intro tokens' same missing
    exact operandAbove_eq_error.2 (.inr ⟨stops.of_head? same, missing⟩)

end Operands

theorem breaksOff_operand (levels : Nat) : BreaksOff (operand levels) .operand levels := by
  rw [operand_eq]
  induction levels with
  | zero => exact breaksOff_operandAbove (by rintro _ ⟨⟩)
  | succ lower ih =>
    rw [← operand_eq] at ih
    exact breaksOff_operandAbove (by rintro _ ⟨⟩; exact ⟨lower, rfl, rfl, ih⟩)

/-! ## Whole token lists -/

theorem ofTokens?_eq_noOperand {tokens : List Token} (next? : Option Token) :
    ofTokens? tokens = .error (noOperand next?) ↔
      (tokens ≠ [] ∧ sum (operand maxNesting) tokens = .error (noOperand next?)) ∨
      ∃ tree token rest, next? = some token ∧
        Reads (sum (operand maxNesting)) tokens tree (token :: rest) := by
  constructor
  · intro refused
    unfold ofTokens? at refused
    split at refused
    · cases next? <;> cases refused
    · rename_i nonempty
      split at refused
      · rename_i error missing
        cases refused
        exact .inl ⟨nonempty, missing⟩
      · cases refused
      · rename_i tree token rest shorter read
        cases next? with
        | none => cases refused
        | some token' =>
          cases refused
          exact .inr ⟨tree, token, rest, rfl, shorter, read⟩
  · rintro (⟨nonempty, missing⟩ | ⟨tree, token, rest, rfl, shorter, read⟩)
    · obtain ⟨token, tail, rfl⟩ := List.exists_cons_of_ne_nil nonempty
      simp [ofTokens?, missing]
    · cases tokens with
      | nil => cases shorter
      | cons first tail => simp [ofTokens?, read, noOperand]

theorem exists_accepted_of_awaits {before : List Token}
    (awaits : Awaits .sum maxNesting (before.map Token.lexeme)) :
    ∃ completion tree, completion ≠ [] ∧ ofTokens? (before ++ completion) = .ok tree := by
  obtain ⟨lexemes, tree, depth, nonempty, bound, derives⟩ := awaits.exists_completion
  refine ⟨lexemes.map (Token.mk · 0), tree, by simpa using nonempty, ?_⟩
  refine ofTokens?_eq_ok_iff_derives.2 ⟨depth, bound, ?_⟩
  simpa [Function.comp_def] using derives

/-- A token is reported where an operand is missing, or behind tokens that are accepted. -/
theorem exists_of_unexpectedToken {tokens : List Token} {token : Token}
    (refused : ofTokens? tokens = .error (.unexpectedToken token)) :
    ∃ before behind, tokens = before ++ token :: behind ∧
      (∃ completion tree, ofTokens? (before ++ completion) = .ok tree) ∧
      ∀ behind', ofTokens? (before ++ token :: behind') = .error (.unexpectedToken token) := by
  rcases (ofTokens?_eq_noOperand (some token)).1 refused with
    ⟨_, missing⟩ | ⟨tree, _, rest, ⟨⟩, read⟩
  · obtain ⟨before, behind, rfl, next, awaits, again⟩ :=
      breaksOff_sum (breaksOff_operand maxNesting) _ _ missing
    obtain ⟨behind, rfl⟩ := List.head?_eq_some_iff.1 next
    obtain ⟨completion, tree, _, accepted⟩ := exists_accepted_of_awaits awaits
    refine ⟨before, behind, rfl, ⟨completion, tree, accepted⟩, ?_⟩
    intro behind'
    exact (ofTokens?_eq_noOperand (some token)).2 (.inl ⟨by simp, again (token :: behind') rfl⟩)
  · obtain ⟨consumed, depth, rfl, bound, derives, rereads⟩ := settles_sum _ _ _ _ read
    have accepted := ofTokens?_eq_ok_iff_derives.2 ⟨depth, bound, derives⟩
    refine ⟨consumed, rest, rfl, ⟨[], tree, by simpa using accepted⟩, ?_⟩
    intro behind'
    exact (ofTokens?_eq_noOperand (some token)).2 (.inr ⟨tree, token, behind', rfl, rereads _ rfl⟩)

/-- The end is reported only where an operand is missing. -/
theorem exists_of_unexpectedEnd {tokens : List Token}
    (refused : ofTokens? tokens = .error .unexpectedEnd) :
    ∃ completion tree, completion ≠ [] ∧ ofTokens? (tokens ++ completion) = .ok tree := by
  rcases (ofTokens?_eq_noOperand none).1 refused with ⟨_, missing⟩ | ⟨_, _, _, ⟨⟩, _⟩
  obtain ⟨before, behind, rfl, next, awaits, _⟩ :=
    breaksOff_sum (breaksOff_operand maxNesting) _ _ missing
  obtain rfl := List.head?_eq_none_iff.1 next
  simpa using exists_accepted_of_awaits awaits

/-- The first token that cannot stand where it does is reported: what stands before it is the front
of an accepted token list, and no list that goes on with the token is accepted, or refused for
another reason. If the tokens end where an operand is missing, they are the front of a longer list
that is accepted. -/
theorem error_at_first_offending_token (text : List Char) (tokens : List Token)
    (cut : tokenize text = .ok tokens) :
    (∀ token, parse text = .error (.unexpectedToken token) →
      ∃ i, tokens[i]? = some token ∧
        (∃ completion tree, ofTokens? (tokens.take i ++ completion) = .ok tree) ∧
        ∀ tokens', tokens.take (i + 1) <+: tokens' →
          ofTokens? tokens' = .error (.unexpectedToken token)) ∧
    (parse text = .error .unexpectedEnd →
      ∃ completion tree, completion ≠ [] ∧ ofTokens? (tokens ++ completion) = .ok tree) := by
  have parsed : parse text = ofTokens? tokens := by simp [parse, cut]
  rw [parsed]
  refine ⟨?_, exists_of_unexpectedEnd⟩
  intro token refused
  obtain ⟨before, behind, rfl, accepted, again⟩ := exists_of_unexpectedToken refused
  refine ⟨before.length, by simp, by simpa using accepted, ?_⟩
  rintro tokens' ⟨behind', rfl⟩
  rw [List.take_length_add_append]
  simpa using again behind'

/-- The parenthesis of `(3+)` closes too early, whatever follows it, and `2**-` lacks an operand. -/
theorem error_at_first_offending_token_closed_early :
    (∃ tokens, tokenize "(3+)".toList = .ok tokens ∧
      parse "(3+)".toList = .error (.unexpectedToken ⟨.closing, 3⟩) ∧
      (∃ completion tree, ofTokens? (tokens.take 3 ++ completion) = .ok tree) ∧
      tokens.take 4 <+: tokens ++ [⟨.number (.integer ⟨4, []⟩), 4⟩] ∧
      ofTokens? (tokens ++ [⟨.number (.integer ⟨4, []⟩), 4⟩]) =
        .error (.unexpectedToken ⟨.closing, 3⟩)) ∧
    ∃ tokens, tokenize "2**-".toList = .ok tokens ∧ parse "2**-".toList = .error .unexpectedEnd ∧
      ∃ completion tree, completion ≠ [] ∧ ofTokens? (tokens ++ completion) = .ok tree := by
  constructor
  · have cut : tokenize "(3+)".toList = .ok [⟨.opening, 0⟩, ⟨.number (.integer ⟨3, []⟩), 1⟩,
        ⟨.op .add, 2⟩, ⟨.closing, 3⟩] := by decide +kernel
    have refused : parse "(3+)".toList = .error (.unexpectedToken ⟨.closing, 3⟩) := by
      decide +kernel
    obtain ⟨i, found, accepted, again⟩ :=
      (error_at_first_offending_token "(3+)".toList _ cut).1 _ refused
    obtain rfl : i = 3 := by
      rcases i with _ | _ | _ | _ | i <;> simp at found ⊢
    have goesOn : ∀ tokens more : List Token, tokens.take 4 <+: tokens ++ more :=
      fun tokens more => (List.take_prefix 4 tokens).trans (List.prefix_append tokens more)
    exact ⟨_, cut, refused, accepted, goesOn _ _, again _ (goesOn _ _)⟩
  · have cut : tokenize "2**-".toList =
        .ok [⟨.number (.integer ⟨2, []⟩), 0⟩, ⟨.op .pow, 1⟩, ⟨.op .sub, 3⟩] := by decide +kernel
    have refused : parse "2**-".toList = .error .unexpectedEnd := by decide +kernel
    exact ⟨_, cut, refused, (error_at_first_offending_token "2**-".toList _ cut).2 refused⟩

end Reckoner.Expr
