import Reckoner.Proofs.Binary64.Written
import Reckoner.Proofs.Evaluation.Candidates
import Reckoner.Proofs.Evaluation.Correction

/-!
# Shown results

What is shown for a result is a text of its own, and a calculator that is given this text shows the
same again, `Calculator.display_evaluates_to_itself`. Only two kinds of text have to be looked at,
`Calculator.shown_of_success`:

* the digits of an integer, for whatever kind of value it is shown. They pass the gates as a bare
  number, the numeral is not too long, and the exact value is the integer, `evaluate_textInt`,
* the shortest text of a number that is already free of noise. Without a power of ten it is a
  numeral with a point, which no exact evaluation takes. It is read as the number, which does not
  change any more, `evaluate_text`.

A minus sign in front of either is a sign of the expression, so both are said of a numeral that may
have one, `Expr.signedNumber`.
-/

namespace Reckoner

open Text (Digit Digits.chars isBlank isDigit squeeze trim)
open Text.Digits (textInt)

-- Powers are those of the core library, whatever else is in scope.
attribute [local instance (high)] instPowNat

/-! ## Numbers with a sign -/

namespace Expr

/-- A number, perhaps with a minus sign. -/
def signedNumber (negative : Bool) (n : Numeral) : Expr :=
  if negative then .signed .minus (.number n) else .number n

/-- The spelling of a number, perhaps with a minus sign. -/
def signedChars (negative : Bool) (n : Numeral) : List Char :=
  (if negative then ['-'] else []) ++ n.chars

variable (negative : Bool) (n : Numeral)

theorem parse_signedChars : parse (signedChars negative n) = .ok (signedNumber negative n) := by
  have number : Derives .operand [.number n] (.number n) 0 := .power (.primary .number)
  cases negative with
  | false =>
    have parsed := parse_of_derives (by decide) (.term (.operand number))
    rwa [List.flatMap_singleton] at parsed
  | true =>
    have signed : Derives .operand [.op .sub, .number n] (.signed .minus (.number n)) 1 :=
      .signed rfl number
    have parsed := parse_of_derives (by decide) (.term (.operand signed))
    rwa [List.flatMap_cons, List.flatMap_singleton] at parsed

theorem isBlank_of_mem_signedChars {c : Char} (member : c ∈ signedChars negative n) :
    isBlank c = false := by
  rcases List.mem_append.1 member with minus | spelled
  · cases negative with
    | false => cases minus
    | true =>
      obtain rfl := List.mem_singleton.1 minus
      decide
  · exact Lexeme.isBlank_of_mem_chars (show c ∈ (Lexeme.number n).chars from spelled)

theorem trim_signedChars : trim (signedChars negative n) = signedChars negative n :=
  Text.stripEnds_of_forall fun _ => isBlank_of_mem_signedChars negative n

theorem squeeze_signedChars : squeeze (signedChars negative n) = signedChars negative n :=
  List.filter_eq_self.2 fun _ member => by simp [isBlank_of_mem_signedChars negative n member]

theorem exact_signedNumber {z : Int} (value : n.exact = .ok z.natAbs) :
    (signedNumber (decide (z < 0)) n).exact = .ok z := by
  unfold signedNumber
  split
  · rename_i below
    have below := of_decide_eq_true below
    refine exact_signed_eq_ok.2 ⟨_, value, ?_⟩
    simp only [Sign.exact]
    omega
  · rename_i above
    have above : ¬ z < 0 := by simpa using above
    rw [exact, value, Int.natAbs_of_nonneg (Int.not_lt.1 above)]

end Expr

namespace Screen

theorem isPlainNumber_chars {n : Numeral} (starts : n.wholeDigits ≠ []) :
    isPlainNumber n.chars = true := by
  cases n with
  | integer whole =>
    have cut := @Text.Digits.split_append whole.toList [] (by rintro _ _ ⟨⟩)
    rw [List.append_nil] at cut
    rw [isPlainNumber, Numeral.chars, cut]
    rfl
  | mixed whole behind =>
    have cut := @Text.Digits.split_append whole.toList ('.' :: Digits.chars behind)
      (by rintro _ _ ⟨⟩; decide)
    rw [isPlainNumber, Numeral.chars, cut]
    simp [DigitRun.toList, Digits.chars, Text.isDigit_toChar]
  | fraction behind => exact absurd rfl starts

theorem isBareNumber_signedChars (negative : Bool) {n : Numeral} (starts : n.wholeDigits ≠ []) :
    isBareNumber (Expr.signedChars negative n) = true := by
  have plain := isPlainNumber_chars starts
  cases negative with
  | true => exact plain
  | false =>
    simp only [Expr.signedChars, Bool.false_eq_true, if_false, List.nil_append]
    unfold isBareNumber
    split
    · -- A numeral has no minus sign.
      rename_i rest same
      have unsigned := n.splitSign_chars
      rw [same] at unsigned
      cases unsigned
    · exact plain

theorem hasAllowedCharacters_signedChars (negative : Bool) (n : Numeral) :
    hasAllowedCharacters (Expr.signedChars negative n) = true := by
  have spelled : ∀ c ∈ n.chars, isAllowed c = true := by
    intro c member
    rcases Numeral.eq_point_or_digit member with rfl | ⟨d, rfl⟩
    · decide
    · simp [isAllowed, Text.isDigit_toChar]
  obtain ⟨c, tail, first, _⟩ := n.exists_cons_chars
  have allowed : (Expr.signedChars negative n).all isAllowed = true := by
    rw [Expr.signedChars, List.all_append, List.all_eq_true.2 spelled, Bool.and_true]
    cases negative <;> decide
  rw [hasAllowedCharacters, allowed]
  simp [Expr.signedChars, first]

end Screen

namespace Calculator

theorem gate?_signedChars {c : Calculator} {negative : Bool} {n : Numeral}
    (starts : n.wholeDigits ≠ [])
    (short : ((Expr.signedChars negative n).length : Int) ≤ c.maxLength) :
    c.gate? (Expr.signedChars negative n) = none := by
  have allowed := Screen.hasAllowedCharacters_signedChars negative n
  have bare := Screen.isBareNumber_signedChars negative starts
  refine gate?_eq_none_iff.2 ⟨?_, short, allowed, by simp [Screen.looksLikeExpression, bare]⟩
  intro empty
  rw [empty] at bare
  cases bare

end Calculator

/-! ## Shown integers -/

theorem DigitRun.exists_toList {ds : List Digit} (nonempty : ds ≠ []) :
    ∃ run : DigitRun, run.toList = ds := by
  obtain ⟨d, others, rfl⟩ := List.exists_cons_of_ne_nil nonempty
  exact ⟨⟨d, others⟩, rfl⟩

theorem exists_signedChars_eq_textInt (z : Int) :
    ∃ whole : DigitRun, textInt z = Expr.signedChars (decide (z < 0)) (.integer whole) ∧
      whole.toList = Text.Digits.ofNat z.natAbs := by
  obtain ⟨whole, digits⟩ :=
    DigitRun.exists_toList (Text.Digits.isCanonical_ofNat z.natAbs).nonempty
  refine ⟨whole, ?_, digits⟩
  simp only [textInt, Expr.signedChars, Numeral.chars, digits, decide_eq_true_eq]
  split <;> rfl

theorem Value.display_ofInteger (z : Int) :
    (ofInteger z).display = String.ofList (textInt z) := by
  unfold ofInteger
  split <;> rfl

namespace Calculator

theorem evaluate_textInt {c : Calculator} {z : Int} (writable : IsWritable z)
    (short : ((textInt z).length : Int) ≤ c.maxLength) :
    c.evaluate (.str (String.ofList (textInt z))) = .success (.ofInteger z) none := by
  obtain ⟨whole, spelled, digits⟩ := exists_signedChars_eq_textInt z
  have numeral : (Numeral.integer whole).exact = .ok z.natAbs := by
    rw [Numeral.exact, digits, if_neg (Nat.not_lt.2 writable), Text.Digits.value_ofNat]
  have exact : (exactResult (textInt z)).result = some (.ofInteger z) := by
    refine exactResult_eq_some.2 ⟨Expr.signedNumber (decide (z < 0)) (.integer whole), z, ?_,
      Expr.exact_signedNumber _ numeral, writable, Value.standsFor_iff.2 rfl⟩
    rw [spelled, Expr.squeeze_signedChars, Expr.parse_signedChars]
  rw [evaluate_eq_success_iff, String.toList_ofList]
  have trimmed : trim (textInt z) = textInt z := by
    rw [spelled, Expr.trim_signedChars]
  rw [trimmed, exact, Option.some_or]
  refine ⟨?_, rfl, Value.isUnbounded_ofInteger z, rfl⟩
  rw [spelled] at short ⊢
  exact gate?_signedChars (List.cons_ne_nil _ _) short

end Calculator

/-! ## Shown fractions -/

/-- A decimal that is written without a power of ten is a numeral with a point. -/
theorem NumberFormat.exists_numeral_eq_decimal (format : NumberFormat) {coefficient : Nat}
    {exponent : Int} (positive : 0 < coefficient)
    (plain : 'e' ∉ format.decimal coefficient exponent) :
    ∃ whole behind, format.decimal coefficient exponent = (Numeral.mixed whole behind).chars ∧
      Binary64.ofNumeral (.mixed whole behind) = .ofDecimal false coefficient exponent := by
  obtain ⟨kept, lead, same⟩ := dropZeros_ofNat positive exponent
  simp only [decimal] at plain ⊢
  generalize exponent + (Text.Digits.ofNat coefficient).length - 1 = leading at same plain ⊢
  generalize dropZeros (Text.Digits.ofNat coefficient) = ds at kept lead same plain ⊢
  by_cases positional : format.positionalFrom ≤ leading ∧ leading < format.positionalBelow
  · rw [if_pos positional]
    obtain ⟨digits, behind, spelled, canonical, _, equal⟩ := positional_eq kept lead leading
    obtain ⟨whole, rfl⟩ := DigitRun.exists_toList canonical.nonempty
    exact ⟨whole, behind, spelled, Binary64.ofDecimal_eq_of_eq (equal.trans same)⟩
  · rw [if_neg positional] at plain
    obtain ⟨first, others, rfl⟩ := List.exists_cons_of_ne_nil kept
    obtain ⟨zeros, spelled⟩ := format.scientific_eq first others leading
    rw [spelled] at plain
    simp at plain

/-- The text of a number without a power of ten is a decimal that is read as the number. -/
theorem exists_signedChars_eq_chars {negative : Bool} {units : Nat} (fits : Binary64.Fits units)
    (nonzero : units ≠ 0)
    (plain : 'e' ∉ NumberFormat.standard.chars (.finite negative units fits)) :
    ∃ whole behind, NumberFormat.standard.chars (.finite negative units fits) =
        Expr.signedChars negative (.mixed whole behind) ∧
      (Expr.signedNumber negative (.mixed whole behind)).rounded = .finite negative units fits := by
  simp only [NumberFormat.chars, nonzero, if_false, List.mem_append, not_or] at plain ⊢
  obtain ⟨whole, behind, spelled, read⟩ :=
    NumberFormat.standard.exists_numeral_eq_decimal (Binary64.shortest_pos fits nonzero) plain.2
  rw [Binary64.ofDecimal_shortest fits nonzero] at read
  refine ⟨whole, behind, by rw [spelled]; rfl, ?_⟩
  cases negative with
  | false => exact read
  | true =>
    simp only [Expr.signedNumber, if_true, Expr.rounded, read]
    rfl

namespace Calculator

theorem evaluate_text {c : Calculator} {x : Binary64} (kept : normalize x = .float x)
    (finite : x.isFinite = true) (plain : 'e' ∉ NumberFormat.standard.chars x)
    (short : ((NumberFormat.standard.chars x).length : Int) ≤ c.maxLength) :
    c.evaluate (.str x.text) = .success (.float x) none := by
  cases x with
  | nan | infinite _ => cases finite
  | finite negative units fits =>
    have nonzero : units ≠ 0 := by
      rintro rfl
      have integer : normalize (.zero negative) = .integer 0 :=
        normalize_of_toInt? (Binary64.toInt?_zero negative)
      cases integer.symm.trans kept
    obtain ⟨whole, behind, spelled, read⟩ := exists_signedChars_eq_chars fits nonzero plain
    rw [evaluate_eq_success_iff, Binary64.text, String.toList_ofList]
    have point : '.' ∈ NumberFormat.standard.chars (.finite negative units fits) := by
      rw [spelled]
      simp [Expr.signedChars, Numeral.chars]
    rw [spelled] at point short ⊢
    rw [Expr.trim_signedChars, exactResult_eq_none point rfl, Option.none_or,
      roundedResult_of_parse (Expr.parse_signedChars _ _), read, kept]
    exact ⟨gate?_signedChars (List.cons_ne_nil _ _) short, rfl, by simp [Value.isUnbounded,
      Binary64.isFinite], rfl⟩

end Calculator

/-! ## What is shown -/

/-- The integers among the numbers of the format have few enough digits. -/
theorem isWritable_of_toInt? {x : Binary64} {z : Int} (integer : x.toInt? = some z) :
    IsWritable z := by
  obtain ⟨_, fits, _, _⟩ := Binary64.toInt?_eq_some.1 integer
  have split : Binary64.limit = 2 ^ Binary64.wholePlaces * Binary64.one := by
    rw [Binary64.limit, Binary64.one, Nat.pow_add]
  have bound : z.natAbs * Binary64.one < 2 ^ Binary64.wholePlaces * Binary64.one := by
    rw [← split]
    exact fits.1
  rw [isWritable_iff]
  calc z.natAbs
    _ < 2 ^ Binary64.wholePlaces := Nat.lt_of_mul_lt_mul_right bound
    _ ≤ 10 ^ Binary64.wholePlaces := Nat.pow_le_pow_left (by decide) _
    _ ≤ 10 ^ Text.Digits.maxRun := Nat.pow_le_pow_right (by decide) (by decide)

/-- A number is shown as an integer or by its shortest text. -/
theorem Value.display_ofBinary64 (x : Binary64) :
    (∃ z, IsWritable z ∧ (ofBinary64 x).display = String.ofList (textInt z)) ∨
      ofBinary64 x = .float x ∧ (ofBinary64 x).display = x.text := by
  unfold ofBinary64
  cases integer : x.toInt? with
  | none => exact .inr ⟨rfl, by simp only [display, integer]⟩
  | some z =>
    have writable := isWritable_of_toInt? integer
    simp only
    split
    · exact .inl ⟨z, writable, rfl⟩
    · simp only [display, integer]
      split
      · exact .inl ⟨z, writable, rfl⟩
      · exact .inr ⟨trivial, rfl⟩

namespace Calculator

theorem shown_of_success {c : Calculator} {input : Json} {value : Value} {detail : Option String}
    (success : c.evaluate input = .success value detail) :
    (∃ z, IsWritable z ∧ value.display = String.ofList (textInt z)) ∨
      ∃ x : Binary64, x.isFinite = true ∧ normalize x = .float x ∧ value = .float x ∧
        value.display = x.text := by
  obtain ⟨bounded, text, exact | rounded⟩ := evaluate_eq_success success
  · obtain ⟨tree, z, _, _, writable, stands⟩ := exactResult_eq_some.1 exact
    obtain rfl := Value.standsFor_iff.1 stands
    exact .inl ⟨z, writable, Value.display_ofInteger z⟩
  · obtain ⟨tree, _, rfl⟩ := roundedResult_eq_some.1 rounded
    rw [isUnbounded_normalize, Bool.not_eq_false'] at bounded
    obtain ⟨x, finite, corrected, _⟩ := exists_normalize_eq_ofBinary64 bounded
    have stable := (normalize_isResult bounded).normalize_eq finite
      (by rw [corrected, Value.toRat?_ofBinary64 finite])
    rw [corrected] at stable ⊢
    rcases Value.display_ofBinary64 x with integer | ⟨float, shown⟩
    · exact .inl integer
    · exact .inr ⟨x, finite, stable.trans float, float, shown⟩

/-! ## Main result -/

/-- A shown result is shown again when it is evaluated, as long as it is written without a power of
ten and is not too long. It need not be the same value: a large integral number is shown as an
integer, and comes back as the digits of one. -/
theorem display_evaluates_to_itself {c : Calculator} {input : Json} {value : Value}
    {detail : Option String} (success : c.evaluate input = .success value detail)
    (plain : 'e' ∉ value.display.toList) (short : (value.display.length : Int) ≤ c.maxLength) :
    ∃ value' detail', c.evaluate (.str value.display) = .success value' detail' ∧
      value'.display = value.display := by
  rw [← String.length_toList] at short
  rcases shown_of_success success with ⟨z, writable, shown⟩ | ⟨x, finite, kept, rfl, shown⟩
  · rw [shown] at short ⊢
    rw [String.toList_ofList] at short
    exact ⟨_, _, evaluate_textInt writable short, Value.display_ofInteger z⟩
  · rw [shown] at plain short ⊢
    rw [Binary64.text, String.toList_ofList] at plain short
    exact ⟨_, _, evaluate_text kept finite plain short, shown⟩

/-- An integral quotient beyond the safe range, and a negative fraction. -/
theorem display_evaluates_to_itself_quotients :
    ((ofLimit none).evaluate (.str "9007199254740993 / 1") =
        .success (.float (.ofDecimal false 9007199254740992 0)) none ∧
      'e' ∉ "9007199254740992".toList ∧
      ("9007199254740992".length : Int) ≤ (ofLimit none).maxLength ∧
      ∃ value detail, (ofLimit none).evaluate (.str "9007199254740992") = .success value detail ∧
        value.display = "9007199254740992") ∧
    ((ofLimit (some 17)).evaluate (.str "- 100 / 3") =
        .success (.float (.ofDecimal true 333333333333333 (-13))) none ∧
      'e' ∉ "-33.3333333333333".toList ∧
      ("-33.3333333333333".length : Int) ≤ (ofLimit (some 17)).maxLength ∧
      ∃ value detail,
        (ofLimit (some 17)).evaluate (.str "-33.3333333333333") = .success value detail ∧
        value.display = "-33.3333333333333") := by
  have large : (ofLimit none).evaluate (.str "9007199254740993 / 1") =
      .success (.float (.ofDecimal false 9007199254740992 0)) none := by decide +kernel
  have shown : (Value.float (.ofDecimal false 9007199254740992 0)).display =
      "9007199254740992" := by decide +kernel
  have third : (ofLimit (some 17)).evaluate (.str "- 100 / 3") =
      .success (.float (.ofDecimal true 333333333333333 (-13))) none := by decide +kernel
  have shown' : (Value.float (.ofDecimal true 333333333333333 (-13))).display =
      "-33.3333333333333" := by decide +kernel
  have plain : 'e' ∉ "9007199254740992".toList := by decide
  have plain' : 'e' ∉ "-33.3333333333333".toList := by decide
  have short : ("9007199254740992".length : Int) ≤ (ofLimit none).maxLength := by decide
  have short' : ("-33.3333333333333".length : Int) ≤ (ofLimit (some 17)).maxLength := by decide
  refine ⟨⟨large, plain, short, ?_⟩, third, plain', short', ?_⟩
  · have again := display_evaluates_to_itself large
    rw [shown] at again
    exact again plain short
  · have again := display_evaluates_to_itself third
    rw [shown'] at again
    exact again plain' short'

end Calculator

end Reckoner
