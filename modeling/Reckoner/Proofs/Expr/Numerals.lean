import Reckoner.Binary64.Text
import Reckoner.Proofs.Expr.Lexing
import Reckoner.Text.TypedInteger

/-!
# Reading numerals

Both readers of whole texts read every numeral: the reader of decimals gives the number nearest to
it, `Binary64.ofChars?_chars`, and the reader of typed integers gives the integer of a numeral
without a point, unless it has too many digits, `Text.typedInteger?_chars`.
-/

namespace Reckoner

open Text (Digit)
open Text.Digits (split chars value)

-- Powers are those of the core library, whatever else is in scope.
attribute [local instance (high)] instPowNat

/-! ## The front of a numeral -/

/-- A numeral begins with a digit or a point. -/
theorem Numeral.exists_cons_chars (n : Numeral) :
    ∃ c tail, n.chars = c :: tail ∧ (c = '.' ∨ ∃ d : Digit, c = d.toChar) := by
  cases n with
  | integer whole => exact ⟨_, _, rfl, .inr ⟨whole.first, rfl⟩⟩
  | mixed whole behind => exact ⟨_, _, rfl, .inr ⟨whole.first, rfl⟩⟩
  | fraction behind => exact ⟨_, _, rfl, .inl rfl⟩

/-- A numeral has no sign. -/
theorem Numeral.splitSign_chars (n : Numeral) : Text.splitSign n.chars = (false, n.chars) := by
  obtain ⟨c, tail, spelled, front⟩ := n.exists_cons_chars
  have digits : ∀ d : Digit, d.toChar ≠ '-' ∧ d.toChar ≠ '+' := by decide
  have unsigned : c ≠ '-' ∧ c ≠ '+' := by
    rcases front with rfl | ⟨d, rfl⟩
    · decide
    · exact digits d
  rw [spelled]
  unfold Text.splitSign
  split
  · rename_i same
    exact absurd (List.cons.inj same).1 unsigned.1
  · rename_i same
    exact absurd (List.cons.inj same).1 unsigned.2
  · rfl

namespace Binary64

/-- A numeral is no name. -/
theorem ofName?_chars (n : Numeral) : ofName? n.chars = none := by
  obtain ⟨c, tail, spelled, front⟩ := n.exists_cons_chars
  have digits : ∀ d : Digit, Text.toLower d.toChar ≠ 'n' ∧ Text.toLower d.toChar ≠ 'i' := by decide
  have nameless : Text.toLower c ≠ 'n' ∧ Text.toLower c ≠ 'i' := by
    rcases front with rfl | ⟨d, rfl⟩
    · decide
    · exact digits d
  rw [spelled, ofName?, List.map_cons]
  split
  · rename_i same
    exact absurd (List.cons.inj same).1 nameless.1
  · rename_i same
    exact absurd (List.cons.inj same).1 nameless.2
  · rename_i same
    exact absurd (List.cons.inj same).1 nameless.2
  · rfl

/-! ## Decimals -/

theorem ofRatio_zero (negative : Bool) (den : Nat) : ofRatio negative 0 den = zero negative := by
  have none : nearest 0 den = 0 := by simp [nearest, roundDiv]
  have small : 0 < limit := Nat.two_pow_pos _
  simp only [ofRatio, none, small, zero, dite_true]

theorem ofDecimal_zero (negative : Bool) (exponent : Int) :
    ofDecimal negative 0 exponent = zero negative := by
  have none : (timesPowerOfTen (0 * one) 1 exponent).1 = 0 := by
    unfold timesPowerOfTen
    split <;> simp
  rw [ofDecimal, none, ofRatio_zero]

/-- A small power of ten counts as it is written. -/
theorem toBinary64_of_natAbs_le {d : DecimalText} (small : (d.exponent?.getD 0).natAbs ≤ 400) :
    d.toBinary64 = ofDecimal d.negative (value (d.whole ++ d.fractionDigits))
      (d.exponent?.getD 0 - d.fractionDigits.length) := by
  have inRange : max (-d.exponentBound) (min d.exponentBound (d.exponent?.getD 0)) =
      d.exponent?.getD 0 := by
    have : 400 ≤ d.exponentBound := by
      unfold DecimalText.exponentBound
      omega
    omega
  simp only [DecimalText.toBinary64, inRange]
  split
  · rename_i vanishes
    rw [vanishes, ofDecimal_zero]
  · rfl

/-- A decimal without an exponent is a whole number of the units of its last digit. -/
theorem toBinary64_of_exponent_eq_none {d : DecimalText} (plain : d.exponent? = none) :
    d.toBinary64 = ofDecimal d.negative (value (d.whole ++ d.fractionDigits))
      (-(d.fractionDigits.length : Int)) := by
  rw [toBinary64_of_natAbs_le (by simp [plain]), plain, Option.getD_none, Int.zero_sub]

/-- Every numeral is read as a decimal, and its value is the number nearest to it. -/
theorem ofChars?_chars (n : Numeral) : ofChars? n.chars = some (ofNumeral n) := by
  have all : ∀ ds, split (chars ds) = (ds, []) := by
    intro ds
    have cut := @Text.Digits.split_append ds [] (by simp)
    rwa [List.append_nil] at cut
  have point : Digit.ofChar? '.' = none := by decide
  have upTo : ∀ ds rest, split (chars ds ++ '.' :: rest) = (ds, '.' :: rest) := by
    intro ds rest
    refine Text.Digits.split_append ?_
    intro c tail same
    obtain ⟨rfl, -⟩ := List.cons.inj same
    exact point
  have atPoint : ∀ rest, split ('.' :: rest) = ([], '.' :: rest) := by
    intro rest
    simp [split, point]
  unfold ofChars?
  rw [n.splitSign_chars]
  simp only [ofName?_chars]
  cases n with
  | integer whole =>
    simp only [Numeral.chars, all]
    exact congrArg some (toBinary64_of_exponent_eq_none rfl)
  | mixed whole behind =>
    simp only [Numeral.chars, upTo, all]
    exact congrArg some (toBinary64_of_exponent_eq_none rfl)
  | fraction behind =>
    simp only [Numeral.chars, atPoint, all]
    exact congrArg some (toBinary64_of_exponent_eq_none rfl)

end Binary64

/-! ## Integers -/

namespace Text

theorem stripEnds_of_forall {p : Char → Bool} {text : List Char} (kept : ∀ c ∈ text, p c = false) :
    stripEnds p text = text := by
  have front : ∀ rest : List Char, (∀ c ∈ rest, p c = false) → rest.dropWhile p = rest := by
    intro rest kept
    cases rest with
    | nil => rfl
    | cons c rest => simp [kept c (by simp)]
  rw [stripEnds, front text kept, front _ (by simpa using kept), List.reverse_reverse]

/-- A run of digits is read digit by digit. -/
theorem separatedDigits?_chars (d : Digit) (ds : List Digit) :
    separatedDigits? (chars (d :: ds)) = some (d :: ds) := by
  have digit : ∀ d : Digit, scriptDigit? d.toChar = some d :=
    fun d => scriptDigit?_of_ofChar? d.ofChar?_toChar
  induction ds generalizing d with
  | nil => simp [chars, separatedDigits?, digit]
  | cons d' ds ih =>
    have apart : ∀ d : Digit, d.toChar ≠ '_' := by decide
    have front : chars (d :: d' :: ds) = d.toChar :: d'.toChar :: chars ds := rfl
    rw [front, separatedDigits?, digit]
    · simp only [Option.bind_eq_bind, Option.bind_some]
      have rest := ih d'
      rw [show chars (d' :: ds) = d'.toChar :: chars ds from rfl] at rest
      rw [rest]
      rfl
    · simp
    · intro tail same
      exact absurd (List.cons.inj same).1 (apart d')

/-- A run of digits is read as an integer, unless it is too long. -/
theorem typedInteger?_chars (whole : DigitRun) :
    typedInteger? (Numeral.integer whole).chars =
      if Digits.maxRun < whole.toList.length then none else some (value whole.toList : Int) := by
  have solid : ∀ d : Digit, isNumberSpace d.toChar = false := by decide
  have stripped : stripEnds isNumberSpace (Numeral.integer whole).chars =
      (Numeral.integer whole).chars := by
    refine stripEnds_of_forall ?_
    intro c member
    obtain ⟨d, _, rfl⟩ := List.mem_map.1 member
    exact solid d
  have read : separatedDigits? (Numeral.integer whole).chars = some whole.toList :=
    separatedDigits?_chars whole.first whole.others
  unfold typedInteger?
  rw [stripped, Numeral.splitSign_chars]
  simp only [read, Option.bind_eq_bind, Option.bind_some]
  split <;> rfl

end Text

end Reckoner
