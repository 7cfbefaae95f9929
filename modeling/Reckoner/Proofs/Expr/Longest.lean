import Reckoner.Proofs.Expr.Lexing

/-!
# The longest lexeme

Which lexeme is at the front of a text. `IsNumber` lists the spellings of numbers, and a numeral
that is read is the longest of them at its place, `Numeral.apart_iff`. A lexeme is read where it is
spelled and kept apart from what follows, `Lexeme.front?_eq_some_iff`, and none is read from a
character that begins none, `Lexeme.front?_eq_none_iff`.
-/

namespace Reckoner

open Text (Digit Digits.chars isDigit)

/-! ## The spellings of numbers -/

/-- Digits, digits and a point with or without digits behind it, or a point and digits. -/
inductive IsNumber : List Char → Prop where
  | whole {ds} : ds ≠ [] → (∀ c ∈ ds, isDigit c = true) → IsNumber ds
  | mixed {ds es} : ds ≠ [] → (∀ c ∈ ds, isDigit c = true) → (∀ c ∈ es, isDigit c = true) →
      IsNumber (ds ++ '.' :: es)
  | fraction {es} : es ≠ [] → (∀ c ∈ es, isDigit c = true) → IsNumber ('.' :: es)

theorem Text.isDigit_of_mem_chars {ds : List Digit} {c : Char} (member : c ∈ Digits.chars ds) :
    isDigit c = true := by
  obtain ⟨d, _, rfl⟩ := List.mem_map.1 member
  simp [isDigit, Digit.ofChar?_toChar]

theorem Text.exists_chars_eq {text : List Char} (digits : ∀ c ∈ text, isDigit c = true) :
    ∃ ds : List Digit, Digits.chars ds = text := by
  induction text with
  | nil => exact ⟨[], rfl⟩
  | cons c text ih =>
    obtain ⟨ds, rfl⟩ := ih fun c member => digits c (.tail _ member)
    obtain ⟨d, read⟩ := Option.isSome_iff_exists.1 (digits c (.head _))
    exact ⟨d :: ds, by simp [Digits.chars, Digit.toChar_of_ofChar? read]⟩

theorem Text.exists_digitRun {text : List Char} (nonempty : text ≠ [])
    (digits : ∀ c ∈ text, isDigit c = true) : ∃ run : DigitRun, Digits.chars run.toList = text := by
  obtain ⟨ds, rfl⟩ := exists_chars_eq digits
  cases ds with
  | nil => exact absurd rfl nonempty
  | cons d ds => exact ⟨⟨d, ds⟩, rfl⟩

namespace Numeral

theorem isNumber_iff {text : List Char} : IsNumber text ↔ ∃ n : Numeral, n.chars = text := by
  constructor
  · rintro (⟨nonempty, digits⟩ | ⟨nonempty, digits, digits'⟩ | ⟨nonempty, digits⟩)
    · obtain ⟨run, rfl⟩ := Text.exists_digitRun nonempty digits
      exact ⟨.integer run, rfl⟩
    · obtain ⟨run, rfl⟩ := Text.exists_digitRun nonempty digits
      obtain ⟨behind, rfl⟩ := Text.exists_chars_eq digits'
      exact ⟨.mixed run behind, rfl⟩
    · obtain ⟨run, rfl⟩ := Text.exists_digitRun nonempty digits
      exact ⟨.fraction run, rfl⟩
  · have nonempty : ∀ run : DigitRun, Digits.chars run.toList ≠ [] := by
      simp [Digits.chars, DigitRun.toList]
    rintro ⟨n, rfl⟩
    cases n with
    | integer whole => exact .whole (nonempty whole) fun _ => Text.isDigit_of_mem_chars
    | mixed whole behind =>
      exact .mixed (nonempty whole) (fun _ => Text.isDigit_of_mem_chars)
        fun _ => Text.isDigit_of_mem_chars
    | fraction behind => exact .fraction (nonempty behind) fun _ => Text.isDigit_of_mem_chars

theorem isNumber_chars (n : Numeral) : IsNumber n.chars :=
  isNumber_iff.2 ⟨n, rfl⟩

theorem isDigit_or_eq_point {n : Numeral} {c : Char} (member : c ∈ n.chars) :
    isDigit c = true ∨ c = '.' := by
  cases n with
  | integer whole => exact .inl (Text.isDigit_of_mem_chars member)
  | mixed whole behind =>
    rcases List.mem_append.1 member with member | member
    · exact .inl (Text.isDigit_of_mem_chars member)
    · rcases List.mem_cons.1 member with point | member
      · exact .inr point
      · exact .inl (Text.isDigit_of_mem_chars member)
  | fraction behind =>
    rcases List.mem_cons.1 member with point | member
    · exact .inr point
    · exact .inl (Text.isDigit_of_mem_chars member)

theorem count_point (n : Numeral) : n.chars.count '.' = if n.isDecimal then 1 else 0 := by
  have none : ∀ ds : List Digit, (Digits.chars ds).count '.' = 0 := by
    intro ds
    refine List.count_eq_zero.2 fun member => ?_
    cases Text.isDigit_of_mem_chars member
  cases n <;> simp [Numeral.chars, isDecimal, none]

theorem isNumber_append_digit (n : Numeral) {c : Char} (digit : isDigit c = true) :
    IsNumber (n.chars ++ [c]) := by
  have digits : ∀ ds : List Digit, ∀ c' ∈ Digits.chars ds ++ [c], isDigit c' = true := by
    intro ds c' member
    rcases List.mem_append.1 member with member | member
    · exact Text.isDigit_of_mem_chars member
    · exact List.mem_singleton.1 member ▸ digit
  cases n with
  | integer whole => exact .whole (by simp) (digits _)
  | mixed whole behind =>
    rw [Numeral.chars, List.append_assoc]
    exact .mixed (by simp [Digits.chars, DigitRun.toList]) (fun _ => Text.isDigit_of_mem_chars)
      (digits _)
  | fraction behind => exact .fraction (by simp) (digits _)

theorem isNumber_append_point {n : Numeral} (integer : n.isDecimal = false) :
    IsNumber (n.chars ++ ['.']) := by
  cases n with
  | integer whole =>
    exact .mixed (by simp [Numeral.chars, Digits.chars, DigitRun.toList])
      (fun _ => Text.isDigit_of_mem_chars) fun _ member => nomatch member
  | mixed _ _ | fraction _ => cases integer

/-- A numeral is kept apart from what follows if no longer number is in front of the text. -/
theorem apart_iff {n : Numeral} {rest : List Char} :
    (Lexeme.number n).Apart rest ↔
      ∀ longer, IsNumber longer → longer <+: n.chars ++ rest → longer.length ≤ n.chars.length := by
  constructor
  · intro apart longer number front
    obtain ⟨n', rfl⟩ := isNumber_iff.1 number
    refine Nat.not_lt.1 fun longer => ?_
    obtain ⟨more, whole⟩ := List.prefix_of_prefix_length_le (List.prefix_append _ rest) front
      (Nat.le_of_lt longer)
    rw [← whole, List.prefix_append_right_inj] at front
    cases more with
    | nil => simp [← whole] at longer
    | cons c more =>
      -- The character behind the numeral cannot go on with it: a digit never stands there, and a
      -- point only behind a numeral that has one already.
      obtain ⟨tail, rfl⟩ := front
      obtain ⟨notDigit, point⟩ := apart c (more ++ tail) rfl
      have member : c ∈ n'.chars := by simp [← whole]
      rcases isDigit_or_eq_point member with digit | rfl
      · simp [isDigit, notDigit] at digit
      · have points := n'.count_point
        rw [← whole, List.count_append, n.count_point, point rfl] at points
        simp only [List.count_cons_self, if_true] at points
        split at points <;> omega
  · rintro longest c tail rfl
    have none : IsNumber (n.chars ++ [c]) → False := by
      intro number
      have bound := longest _ number ((List.prefix_append_right_inj _).2 ⟨tail, rfl⟩)
      simp only [List.length_append, List.length_singleton] at bound
      omega
    constructor
    · refine Option.eq_none_iff_forall_ne_some.2 fun d read => ?_
      exact none (n.isNumber_append_digit (by simp [isDigit, read]))
    · rintro rfl
      cases integer : n.isDecimal with
      | true => rfl
      | false => exact absurd (isNumber_append_point integer) none

end Numeral

/-! ## Lexemes -/

theorem Numeral.front?_eq_none_iff {c : Char} {rest : List Char} :
    front? (c :: rest) = none ↔
      isDigit c = false ∧ (c = '.' → ∀ d, rest.head? = some d → isDigit d = false) := by
  have none : ∀ text : List Char, (Text.Digits.split text).1 = [] ↔
      ∀ d, text.head? = some d → isDigit d = false := by
    intro text
    cases text with
    | nil => simp [Text.Digits.split]
    | cons c text => cases digit : Digit.ofChar? c <;> simp [Text.Digits.split, isDigit, digit]
  cases digit : Digit.ofChar? c with
  | some d =>
    simp only [isDigit, digit, Option.isSome_some, Bool.true_eq_false, false_and, iff_false]
    unfold front?
    split <;> simp_all [Text.Digits.split]
  | none =>
    have cut : Text.Digits.split (c :: rest) = ([], c :: rest) := by
      simp [Text.Digits.split, digit]
    by_cases point : c = '.'
    · subst point
      have notDigit : isDigit '.' = false := by decide
      simp only [notDigit, true_and, forall_const, ← none rest, front?, cut]
      cases digits : Text.Digits.split rest with
      | mk ds behind => cases ds <;> simp
    · simp [front?, cut, point, isDigit, digit]

theorem Numeral.apart_of_front? {text rest : List Char} {n : Numeral}
    (read : front? text = some (n, rest)) : (Lexeme.number n).Apart rest := by
  have ends := fun text c tail => @Text.Digits.ofChar?_head_split text c tail
  unfold front? at read
  split at read
  · cases read
    exact fun c tail same => ⟨ends _ c tail same, fun _ => rfl⟩
  · rename_i noPoint cut
    cases read
    refine fun c tail same => ⟨ends _ c tail (by rw [cut]; exact same), ?_⟩
    rintro rfl
    subst same
    exact (noPoint _ rfl).elim
  · split at read
    · rename_i cut
      cases read
      exact fun c tail same => ⟨ends _ c tail (by rw [cut]; exact same), fun _ => rfl⟩
    · cases read
  · cases read

namespace Lexeme

theorem apart_of_front? {text rest : List Char} {lexeme : Lexeme}
    (read : front? text = some (lexeme, rest)) : lexeme.Apart rest := by
  unfold front? at read
  split at read
  case h_2 noStar =>
    cases read
    rintro tail rfl
    exact noStar tail rfl
  case h_10 =>
    obtain ⟨⟨n, rest'⟩, number, same⟩ := Option.map_eq_some_iff.1 read
    cases same
    exact Numeral.apart_of_front? number
  all_goals
    cases read
    trivial

/-- The lexeme at the front of a text is the one that is spelled there and cannot be longer. -/
theorem front?_eq_some_iff {text rest : List Char} {lexeme : Lexeme} :
    front? text = some (lexeme, rest) ↔ text = lexeme.chars ++ rest ∧ lexeme.Apart rest := by
  constructor
  · exact fun read => ⟨front?_eq_some read, apart_of_front? read⟩
  · rintro ⟨rfl, apart⟩
    exact front?_append apart

theorem front?_eq_none_iff {c : Char} {rest : List Char} :
    front? (c :: rest) = none ↔
      isDigit c = false ∧ c ∉ marks ∧ (c = '.' → ∀ d, rest.head? = some d → isDigit d = false) := by
  by_cases marked : c ∈ marks
  · have some : front? (c :: rest) ≠ none := by
      simp only [marks, List.mem_cons, List.not_mem_nil, or_false] at marked
      rcases marked with rfl | rfl | rfl | rfl | rfl | rfl | rfl | rfl
      · cases rest with
        | nil => simp [front?]
        | cons d rest => by_cases star : d = '*' <;> simp [front?, star]
      all_goals simp [front?]
    simp [some, marked]
  · rw [front?_of_not_mem_marks rest marked, Option.map_eq_none_iff, Numeral.front?_eq_none_iff]
    simp [marked]

end Lexeme

end Reckoner
