import Reckoner.Proofs.Binary64.Rationals
import Reckoner.Proofs.Evaluation.Outcomes

/-!
# Removing noise is a small correction

`normalize` is compared with the rational number that it is given, `normalize_corrects`:

* it gives a number that it does not change any more, `Value.IsResult.normalize_eq`,
* it treats both signs alike, `normalize_neg`,
* an integer and a magnitude below a millionth keep their value, `normalize_of_lt_millionth`. The
  bound itself, `exponentFormBelow`, is the only number from there up to a millionth,
* any other number moves by at most one unit of its fifteenth digit.
-/

namespace Reckoner

open Binary64

-- Powers are those of the core library, whatever else is in scope.
attribute [local instance (high)] instPowNat

-- No proof should compute this power.
attribute [local irreducible] one

/-- The rational number that a value is, if it is a number. -/
def Value.toRat? : Value → Option ℚ
  | integer z => some z
  | float x => if x.isFinite then some x.toRat else none
  | text _ => none

/-- The number of the other sign. -/
def Value.neg : Value → Value
  | integer z => .integer (-z)
  | float x => .float x.neg
  | text s => .text s

/-! ## Signs -/

theorem isSafe_neg (z : Int) : isSafe (-z) = isSafe z := by
  simp only [isSafe, Int.natAbs_neg]

theorem Value.ofBinary64_neg (x : Binary64) : ofBinary64 x.neg = (ofBinary64 x).neg := by
  unfold ofBinary64
  rw [toInt?_neg_eq_map]
  cases x.toInt? with
  | none => rfl
  | some z =>
    simp only [Option.map_some, isSafe_neg]
    split <;> rfl

theorem normalize_neg (x : Binary64) : normalize x.neg = (normalize x).neg := by
  unfold normalize
  rw [isFinite_neg, isZero_neg, magnitudeLt_neg, magnitudeLt_neg, toInt?_neg_eq_map,
    Option.isSome_map, roundSignificant_neg, Value.ofBinary64_neg, Value.ofBinary64_neg]
  split_ifs <;> rfl

/-- The bound may have either sign. -/
theorem magnitudeLt_exponentFormBelow (negative : Bool) {x : Binary64} :
    x.magnitudeLt exponentFormBelow = x.magnitudeLt (ofDecimal negative 1 (-6)) := by
  cases negative with
  | false => rfl
  | true =>
    rw [← Bool.not_false, ofDecimal_not, magnitudeLt_neg_right]
    rfl

/-! ## Values of results -/

theorem Value.toRat?_ofBinary64 {x : Binary64} (finite : x.isFinite = true) :
    (ofBinary64 x).toRat? = some x.toRat := by
  unfold ofBinary64
  split
  · rename_i z integer
    split
    · simp [toRat?, (toRat_eq_intCast_iff finite).2 integer]
    · simp [toRat?, finite]
  · simp [toRat?, finite]

/-- A result does not change any more: every number with its value becomes the same result again. -/
theorem Value.IsResult.normalize_eq {value : Value} (result : value.IsResult) {x : Binary64}
    (finite : x.isFinite = true) (same : value.toRat? = some x.toRat) : normalize x = value := by
  cases result with
  | integer safe =>
    have integer := (toRat_eq_intCast_iff finite).1 (Option.some.inj same).symm
    rw [normalize_of_toInt? integer]
    exact if_pos (decide_eq_true safe)
  | digits _ _ => cases same
  | broken finite' broken digits =>
    rename_i x'
    simp only [toRat?, finite', if_true, Option.some.injEq] at same
    have nonzero : x'.toRat ≠ 0 := by
      intro zero
      exact (toInt?_eq_none_iff finite').1 broken ⟨0, by rw [zero, Int.cast_zero]⟩
    obtain rfl := eq_of_toRat_eq finite' finite same nonzero
    cases small : x'.magnitudeLt exponentFormBelow with
    | true => exact normalize_of_small finite broken small
    | false =>
      rw [normalize_of_broken finite broken small, digits small]
      simp only [ofBinary64, broken]
  | large integer large =>
    rename_i x' z
    have finite' := isFinite_of_toInt? integer
    simp only [toRat?, finite', if_true, Option.some.injEq] at same
    have nonzero : x'.toRat ≠ 0 := by
      rw [(toRat_eq_intCast_iff finite').2 integer, Int.cast_ne_zero]
      rintro rfl
      exact absurd large (Nat.not_lt_zero _)
    obtain rfl := eq_of_toRat_eq finite' finite same nonzero
    rw [normalize_of_toInt? integer, if_neg]
    simpa [isSafe] using large

/-! ## How far a number moves -/

/-- A number below a millionth keeps its value. -/
theorem normalize_of_lt_millionth {x : Binary64} (finite : x.isFinite = true)
    (broken : x.toInt? = none) (small : |x.toRat| < 10 ^ (-6 : Int)) : normalize x = .float x := by
  cases below : x.magnitudeLt exponentFormBelow with
  | true => exact normalize_of_small finite broken below
  | false =>
    cases x with
    | nan | infinite _ => cases finite
    | finite negative units fits =>
      have large := lt_units_of_not_exponentForm below
      rw [abs_toRat, div_lt_iff₀ cast_one_pos] at small
      obtain ⟨bound, fits', read, _⟩ : ∃ bound fits', ofDecimal negative 1 (-6) =
          .finite negative bound fits' ∧ bound ≤ 1 * one :=
        ofDecimal_le (fits_whole (by decide)) (by
          rw [Nat.one_mul]
          exact mul_le_of_le_one_left cast_one_pos.le (by norm_num))
      -- The bound lies between the number and a millionth, so it is the number.
      have above : units ≤ bound := le_of_eq_ofDecimal read.symm fits (by
        rw [Nat.cast_one, one_mul]
        exact small.le)
      obtain rfl : units = bound := by
        rw [magnitudeLt_exponentFormBelow negative, read, magnitudeLt_finite] at below
        have := of_decide_eq_false below
        omega
      have kept := roundSignificant_ofDecimal (show 14 < 15 by decide) (by decide) read.symm
        (by omega)
      rw [normalize_of_broken rfl broken below, significantDigits, kept, Value.ofBinary64, broken]

/-- Removing noise changes nothing or rounds once. -/
theorem exists_normalize_eq_ofBinary64 {x : Binary64} (finite : x.isFinite = true) :
    ∃ x' : Binary64, x'.isFinite = true ∧ normalize x = .ofBinary64 x' ∧
      (x' = x ∨ x.toInt? = none ∧ x.magnitudeLt exponentFormBelow = false ∧
        x' = x.roundSignificant significantDigits) := by
  cases integer : x.toInt? with
  | some z =>
    refine ⟨x, finite, ?_, .inl rfl⟩
    rw [normalize_of_toInt? integer, Value.ofBinary64, integer]
  | none =>
    cases small : x.magnitudeLt exponentFormBelow with
    | true =>
      refine ⟨x, finite, ?_, .inl rfl⟩
      rw [normalize_of_small finite integer small, Value.ofBinary64, integer]
    | false =>
      obtain ⟨negative, units, fits, rounded, _⟩ := exists_roundSignificant_eq_finite finite integer
      exact ⟨_, by rw [rounded]; rfl, normalize_of_broken finite integer small,
        .inr ⟨rfl, rfl, rfl⟩⟩

/-- For every finite number removing noise gives a number of the format that stays the same when it
is corrected again, in whatever way it is given, and the number of the other sign for the number of
the other sign. Both zeros become the integer. Integers and magnitudes below a millionth keep their
value, and nothing moves by more than one unit of its fifteenth significant digit. -/
theorem normalize_corrects {x : Binary64} (finite : x.isFinite = true) :
    ∃ y : ℚ, (normalize x).toRat? = some y ∧
      ((∃ x' : Binary64, x'.isFinite = true ∧ x'.toRat = y) ∧
        ∀ x' : Binary64, x'.isFinite = true → x'.toRat = y → normalize x' = normalize x) ∧
      (normalize x.neg = (normalize x).neg ∧ (x.toRat = 0 → normalize x = .integer 0)) ∧
      ((∃ z : Int, x.toRat = z) ∨ |x.toRat| < 10 ^ (-6 : Int) → y = x.toRat) ∧
      ∀ e : Int, 10 ^ e ≤ |x.toRat| → |x.toRat| < 10 ^ (e + 1) →
        |y - x.toRat| ≤ 10 ^ (e - 14) := by
  obtain ⟨x', finite', corrected, kept⟩ := exists_normalize_eq_ofBinary64 finite
  have value := Value.toRat?_ofBinary64 finite'
  rw [← corrected] at value
  refine ⟨x'.toRat, value, ⟨⟨x', finite', rfl⟩, ?_⟩, ⟨normalize_neg x, ?_⟩, ?_, ?_⟩
  · intro other finiteOther same
    exact (normalize_isResult finite).normalize_eq finiteOther (by rw [value, same])
  · intro zero
    have integer : x.toInt? = some 0 := (toRat_eq_intCast_iff finite).1 (by simpa using zero)
    rw [normalize_of_toInt? integer]
    rfl
  · rintro (⟨z, integer⟩ | small)
    · rcases kept with rfl | ⟨broken, _⟩
      · rfl
      · exact absurd ⟨z, integer⟩ ((toInt?_eq_none_iff finite).1 broken)
    · rcases kept with rfl | ⟨broken, _⟩
      · rfl
      · rw [normalize_of_lt_millionth finite broken small] at value
        simp only [Value.toRat?, finite, if_true, Option.some.injEq] at value
        exact value.symm
  · intro e below above
    rcases kept with rfl | ⟨broken, large, rounded⟩
    · rw [sub_self, abs_zero]
      exact (zpow_pos (by norm_num) _).le
    · cases x with
      | nan | infinite _ => cases finite
      | finite negative units fits =>
        obtain ⟨negative', units', fits', again, _⟩ :=
          exists_roundSignificant_eq_finite finite broken
        have large := lt_units_of_not_exponentForm large
        rw [rounded, again]
        exact abs_toRat_roundSignificant_sub_le (by decide) large.le again below above

/-- The sum of a tenth and two tenths is corrected to three tenths. -/
theorem normalize_corrects_three_tenths :
    let x := ofDecimal false 30000000000000004 (-17)
    let y := ofDecimal false 3 (-1)
    x.isFinite = true ∧ normalize x = .float y ∧ normalize y = .float y ∧
      normalize x.neg = .float y.neg ∧ (10 : ℚ) ^ (-1 : Int) ≤ |x.toRat| ∧
      |x.toRat| < 10 ^ (-1 + 1 : Int) ∧ |y.toRat - x.toRat| ≤ 10 ^ (-1 - 14 : Int) := by
  intro x y
  have finite : x.isFinite = true := by decide +kernel
  have finite' : y.isFinite = true := by decide +kernel
  have corrected : normalize x = .float y := by decide +kernel
  have below : (10 : ℚ) ^ (-1 : Int) ≤ |x.toRat| := by decide +kernel
  have above : |x.toRat| < 10 ^ (-1 + 1 : Int) := by decide +kernel
  obtain ⟨v, value, ⟨_, stable⟩, ⟨symmetric, _⟩, _, small⟩ := normalize_corrects finite
  rw [corrected] at value stable symmetric
  simp only [Value.toRat?, finite', if_true, Option.some.injEq] at value
  subst value
  exact ⟨finite, corrected, stable y finite' rfl, symmetric, below, above, small (-1) below above⟩

end Reckoner
