import Mathlib.Algebra.Order.Ring.Int
import Mathlib.Algebra.Ring.Parity
import Reckoner.Binary64.Power
import Reckoner.Proofs.Binary64.Nearest

/-!
# Integers among binary64 numbers

A number is an integer if its count of units is a multiple of `one`, `toInt?_eq_some`. As long as
the exact result is an integer of at most 53 binary digits, every operation gives it: the sign of a
zero is all that can differ, and `toInt?` does not see it. So each operation has one equation on
integers (`toInt?_neg`, `toInt?_add`, `toInt?_sub`, `toInt?_mul`, `toInt?_rem`, `toInt?_pow`), and
so has the reading of a literal (`toInt?_ofNumeral`).
-/

namespace Reckoner

-- Powers are those of the core library, whatever else is in scope.
attribute [local instance (high)] instPowNat

namespace Binary64

/-! ## Counts with a sign -/

theorem natAbs_signedUnits (negative : Bool) (n : Nat) : (signedUnits negative n).natAbs = n := by
  cases negative <;> simp [signedUnits]

theorem signedUnits_mul (negative : Bool) (n k : Nat) :
    signedUnits negative (n * k) = signedUnits negative n * k := by
  cases negative <;> simp [signedUnits]

theorem signedUnits_bne (s t : Bool) (m n : Nat) :
    signedUnits (s != t) (m * n) = signedUnits s m * signedUnits t n := by
  cases s <;> cases t <;> simp [signedUnits]

theorem signedUnits_mod (negative : Bool) (m : Nat) (b : Int) :
    signedUnits negative (m % b.natAbs) = (signedUnits negative m).tmod b := by
  have unsigned : ((m % b.natAbs : Nat) : Int) = (m : Int).tmod b := by
    rcases Int.natAbs_eq b with same | same
    · rw [same, ← Int.ofNat_tmod, Int.natAbs_natCast]
    · rw [same, Int.tmod_neg, ← Int.ofNat_tmod, Int.natAbs_neg, Int.natAbs_natCast]
  cases negative with
  | false => simp only [signedUnits, Bool.false_eq_true, if_false, unsigned]
  | true => simp only [signedUnits, if_true, unsigned, Int.neg_tmod]

theorem signedUnits_pow (negative : Bool) (n e : Nat) :
    signedUnits (negative && (e : Int) % 2 == 1) (n ^ e) = signedUnits negative n ^ e := by
  cases negative with
  | false => simp [signedUnits]
  | true =>
    simp only [signedUnits, Bool.true_and, if_true, beq_iff_eq]
    by_cases odd : e % 2 = 1
    · have sign : (e : Int) % 2 = 1 := by omega
      rw [if_pos sign, (Nat.odd_iff.2 odd).neg_pow, Int.natCast_pow]
    · have sign : ¬ (e : Int) % 2 = 1 := by omega
      rw [if_neg sign, (Nat.even_iff.2 (by omega : e % 2 = 0)).neg_pow, Int.natCast_pow]

/-- An integer is its magnitude with its sign. -/
theorem signedUnits_natAbs (z : Int) : signedUnits (decide (z < 0)) z.natAbs = z := by
  unfold signedUnits
  by_cases negative : z < 0
  · simp only [negative, decide_true, if_true]
    omega
  · simp only [negative, decide_false, Bool.false_eq_true, if_false]
    omega

/-! ## Whole counts -/

theorem one_pos : 0 < one :=
  Nat.two_pow_pos _

/-- Integers of at most 53 binary digits occur. -/
theorem fits_whole {n : Nat} (small : n < 2 ^ 53) : Fits (n * one) := by
  refine ⟨?_, step_dvd_of_le (Nat.le_of_lt small)⟩
  calc n * one
    _ < 2 ^ 53 * one := Nat.mul_lt_mul_of_pos_right small one_pos
    _ ≤ limit := by decide +kernel

-- From here on nothing is left to compute of the power that is behind it.
attribute [local irreducible] one

theorem toInt?_whole {negative : Bool} {n : Nat} {fits : Fits (n * one)} :
    (finite negative (n * one) fits).toInt? = some (signedUnits negative n) := by
  simp only [toInt?, Nat.mul_mod_left, if_true, Nat.mul_div_cancel _ one_pos]
  rfl

theorem toInt?_eq_some {x : Binary64} {z : Int} :
    x.toInt? = some z ↔ ∃ negative fits,
      x = .finite negative (z.natAbs * one) fits ∧ signedUnits negative z.natAbs = z := by
  constructor
  · intro integer
    cases x with
    | nan | infinite _ => cases integer
    | finite negative units fits =>
      by_cases whole : units % one = 0
      · obtain ⟨n, rfl⟩ : ∃ n, units = n * one :=
          ⟨units / one, (Nat.div_mul_cancel (Nat.dvd_of_mod_eq_zero whole)).symm⟩
        rw [toInt?_whole] at integer
        obtain rfl := Option.some.inj integer
        rw [natAbs_signedUnits]
        exact ⟨negative, fits, rfl, rfl⟩
      · simp only [toInt?, whole, if_false] at integer
        cases integer
  · rintro ⟨negative, fits, rfl, sign⟩
    rw [toInt?_whole, sign]

/-- A quotient that is a whole count is not rounded. -/
theorem toInt?_ofRatio (negative : Bool) {n c : Nat} (small : n < 2 ^ 53) (positive : 0 < c) :
    (ofRatio negative (n * one * c) c).toInt? = some (signedUnits negative n) := by
  have cancelled := nearest_mul_right (n * one) 1 positive
  rw [Nat.one_mul] at cancelled
  have same : ofRatio negative (n * one * c) c = ofRatio negative (n * one) 1 := by
    simp only [ofRatio, cancelled]
  rw [same, ofRatio_of_fits (fits_whole small), toInt?_whole]

theorem toInt?_ofInt {z : Int} (small : z.natAbs < 2 ^ 53) : (ofInt z).toInt? = some z := by
  have whole := toInt?_ofRatio (decide (z < 0)) small Nat.one_pos
  rw [signedUnits_natAbs, Nat.mul_one] at whole
  exact whole

theorem toInt?_zero (negative : Bool) : (zero negative).toInt? = some 0 := by
  rw [toInt?_eq_some]
  refine ⟨negative, by simpa using fits_of_lt (by decide), by simp [zero], ?_⟩
  cases negative <;> rfl

variable {x y : Binary64} {a b : Int}

theorem isZero_of_toInt? (integer : x.toInt? = some a) : x.isZero = decide (a = 0) := by
  obtain ⟨s, fits, rfl, _⟩ := toInt?_eq_some.1 integer
  have nonzero := Nat.ne_of_gt one_pos
  simp [isZero, beq_eq_decide, nonzero]

theorem isNegative_of_toInt? (integer : x.toInt? = some a) (positive : 0 < a) :
    x.isNegative = false := by
  obtain ⟨s, fits, rfl, sign⟩ := toInt?_eq_some.1 integer
  cases s with
  | false => rfl
  | true =>
    simp only [signedUnits, if_true] at sign
    omega

/-! ## Operations -/

theorem toInt?_neg (integer : x.toInt? = some a) : x.neg.toInt? = some (-a) := by
  obtain ⟨s, fits, rfl, sign⟩ := toInt?_eq_some.1 integer
  rw [neg, toInt?_whole]
  congr 1
  rw [← sign, natAbs_signedUnits]
  cases s <;> simp [signedUnits]

theorem toInt?_add (integer : x.toInt? = some a) (integer' : y.toInt? = some b)
    (small : (a + b).natAbs < 2 ^ 53) : (x.add y).toInt? = some (a + b) := by
  obtain ⟨s, fits, rfl, sign⟩ := toInt?_eq_some.1 integer
  obtain ⟨s', fits', rfl, sign'⟩ := toInt?_eq_some.1 integer'
  have positive : (0 : Int) < one := Int.natCast_pos.2 one_pos
  simp only [add, signedUnits_mul, sign, sign', ← Int.add_mul]
  by_cases cancels : a + b = 0
  · simp [cancels, toInt?_zero]
  · have nonzero : (a + b) * (one : Int) ≠ 0 := Int.mul_ne_zero cancels (Int.ne_of_gt positive)
    have below : (a + b) * (one : Int) < 0 ↔ a + b < 0 := by
      rw [← Int.not_le, ← Int.not_le, mul_nonneg_iff_of_pos_right positive]
    have magnitude : ((a + b) * (one : Int)).natAbs = (a + b).natAbs * one := by
      rw [Int.natAbs_mul, Int.natAbs_natCast]
    simp only [nonzero, if_false, below, magnitude]
    exact toInt?_ofInt small

theorem toInt?_sub (integer : x.toInt? = some a) (integer' : y.toInt? = some b)
    (small : (a - b).natAbs < 2 ^ 53) : (x.sub y).toInt? = some (a - b) := by
  rw [Int.sub_eq_add_neg] at small ⊢
  exact toInt?_add integer (toInt?_neg integer') small

theorem toInt?_mul (integer : x.toInt? = some a) (integer' : y.toInt? = some b)
    (small : (a * b).natAbs < 2 ^ 53) : (x.mul y).toInt? = some (a * b) := by
  obtain ⟨s, fits, rfl, sign⟩ := toInt?_eq_some.1 integer
  obtain ⟨s', fits', rfl, sign'⟩ := toInt?_eq_some.1 integer'
  have product : a.natAbs * one * (b.natAbs * one) = a.natAbs * b.natAbs * one * one := by
    ac_rfl
  rw [Int.natAbs_mul] at small
  rw [mul, product, toInt?_ofRatio _ small one_pos, signedUnits_bne, sign, sign']

/-- A remainder is no larger than the dividend. -/
theorem toInt?_rem (integer : x.toInt? = some a) (integer' : y.toInt? = some b)
    (small : a.natAbs < 2 ^ 53) (nonzero : b ≠ 0) : (x.rem y).toInt? = some (a.tmod b) := by
  obtain ⟨s, fits, rfl, sign⟩ := toInt?_eq_some.1 integer
  obtain ⟨s', fits', rfl, sign'⟩ := toInt?_eq_some.1 integer'
  have divisor : b.natAbs * one ≠ 0 :=
    Nat.mul_ne_zero (Int.natAbs_ne_zero.2 nonzero) (Nat.ne_of_gt one_pos)
  have smaller : a.natAbs % b.natAbs < 2 ^ 53 := Nat.lt_of_le_of_lt (Nat.mod_le ..) small
  have whole := toInt?_ofRatio s smaller Nat.one_pos
  rw [Nat.mul_one] at whole
  rw [rem, if_neg divisor, Nat.mul_mod_mul_right, whole, signedUnits_mod, sign]

/-! ## Powers -/

/-- A power of a magnitude is computed exactly, as long as it has at most 53 binary digits. -/
theorem wholePower?_eq_some {n e : Nat} (nonzero : n ≠ 0) (small : n ^ e < 2 ^ 53) :
    wholePower? n e = some (.finite false (n ^ e * one) (fits_whole small)) := by
  unfold wholePower?
  split
  · have single : n = 1 := by omega
    subst single
    simp only [Nat.one_pow]
    have rounded := @ofRatio_of_fits false (1 * one) (fits_whole (by decide))
    exact congrArg some rounded
  · have width : n.log2 * e < wholePlaces := by
      have power : 2 ^ (n.log2 * e) < 2 ^ 53 := by
        calc 2 ^ (n.log2 * e)
          _ = (2 ^ n.log2) ^ e := Nat.pow_mul ..
          _ ≤ n ^ e := Nat.pow_le_pow_left (Nat.log2_self_le nonzero) e
          _ < 2 ^ 53 := small
      have := (Nat.pow_lt_pow_iff_right (by decide)).1 power
      exact Nat.lt_trans this (by decide)
    rw [if_neg (Nat.not_le.2 width), dif_pos (fits_whole small)]

theorem positivePower_of_toInt? {n e : Nat} (integer : x.toInt? = some (n : Int))
    (integer' : y.toInt? = some (e : Int)) (nonzero : n ≠ 0) (small : n ^ e < 2 ^ 53) :
    positivePower x y = .finite false (n ^ e * one) (fits_whole small) := by
  simp only [positivePower, integer, integer', Int.natCast_nonneg, if_true, Int.toNat_natCast,
    wholePower?_eq_some nonzero small, Option.getD_some]

/-- A power takes its sign from the base if the exponent is odd. -/
theorem toInt?_finitePower {e : Nat} (integer : x.toInt? = some a)
    (integer' : y.toInt? = some (e : Int)) (small : (a ^ e).natAbs < 2 ^ 53) :
    (finitePower x y).toInt? = some (a ^ e) := by
  have zeroBase := isZero_of_toInt? integer
  have zeroExponent := isZero_of_toInt? integer'
  by_cases trivial : e = 0
  · subst trivial
    rw [finitePower, if_pos (by simpa using zeroExponent), Int.pow_zero]
    exact toInt?_ofInt (by decide)
  have unsigned : y.isNegative = false := isNegative_of_toInt? integer' (by omega)
  by_cases vanishes : a = 0
  · subst vanishes
    rw [Int.zero_pow trivial]
    simp [finitePower, zeroExponent, trivial, zeroBase, unsigned, toInt?_zero]
  · obtain ⟨s, fits, rfl, sign⟩ := toInt?_eq_some.1 integer
    rw [Int.natAbs_pow] at small
    have magnitude : (finite s (a.natAbs * one) fits).abs.toInt? = some (a.natAbs : Int) :=
      toInt?_whole
    have power := positivePower_of_toInt? magnitude integer' (Int.natAbs_ne_zero.2 vanishes) small
    have odd : y.isOdd = ((e : Int) % 2 == 1) := by rw [isOdd, integer']
    simp only [finitePower, zeroExponent, Int.natCast_eq_zero, trivial, zeroBase, vanishes,
      integer', power, odd, isNegative, decide_false, Bool.false_eq_true, if_false, Option.isNone_some,
      Bool.and_false]
    rw [toInt?_whole, signedUnits_pow, sign]

theorem toInt?_pow {e : Nat} (integer : x.toInt? = some a) (integer' : y.toInt? = some (e : Int))
    (small : (a ^ e).natAbs < 2 ^ 53) : (x.pow y).toInt? = some (a ^ e) := by
  have finite : x.pow y = finitePower x y := by
    obtain ⟨s, fits, rfl, _⟩ := toInt?_eq_some.1 integer
    obtain ⟨s', fits', rfl, _⟩ := toInt?_eq_some.1 integer'
    rfl
  rw [finite]
  exact toInt?_finitePower integer integer' small

/-! ## Literals -/

theorem toInt?_ofNumeral {whole : DigitRun} (small : Text.Digits.value whole.toList < 2 ^ 53) :
    (ofNumeral (.integer whole)).toInt? = some (Text.Digits.value whole.toList : Int) := by
  have read : ofNumeral (.integer whole) =
      ofRatio false (Text.Digits.value (whole.toList ++ []) * one * 10 ^ 0) 1 := rfl
  rw [read, List.append_nil, Nat.pow_zero, toInt?_ofRatio _ small Nat.one_pos]
  rfl

end Binary64

end Reckoner
