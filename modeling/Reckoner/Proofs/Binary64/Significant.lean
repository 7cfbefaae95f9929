import Mathlib.Tactic.LinearCombination
import Reckoner.Proofs.Binary64.Integers

/-!
# Rounding to significant digits

A number that is read from a decimal of at most 15 digits is off by so little that rounding it to 15
digits finds the decimal again, `roundSignificant_ofDecimal`. So rounding a second time changes
nothing, `roundSignificant_idempotent`.

Numbers below `2 ^ 52` stay far from the end of the safe range when they are rounded,
`roundSignificant_le`. These are all numbers that are no integers, `units_lt_of_toInt?_eq_none`.
-/

namespace Reckoner.Binary64

-- Powers are those of the core library, whatever else is in scope.
attribute [local instance (high)] instPowNat

-- No proof should compute this power.
attribute [local irreducible] one

/-! ## Decimals -/

/-- Reading a decimal sees its value only. -/
theorem ofDecimal_eq_of_eq {negative : Bool} {d d' : Nat} {e e' : Int}
    (same : (d : ℚ) * 10 ^ e = d' * 10 ^ e') :
    ofDecimal negative d e = ofDecimal negative d' e' := by
  have nearest := nearest_eq_of_div_eq
    (timesPowerOfTen_pos (d * one) Nat.one_pos e)
    (timesPowerOfTen_pos (d' * one) Nat.one_pos e')
    (by
      rw [timesPowerOfTen_div, timesPowerOfTen_div, Nat.cast_mul, Nat.cast_mul, Nat.cast_one]
      linear_combination (one : ℚ) * same)
  simp only [ofDecimal, ofRatio, nearest]

theorem eq_of_eq_ofRatio {s negative : Bool} {units num den : Nat} {fits : Fits units}
    (read : finite s units fits = ofRatio negative num den) :
    s = negative ∧ units = nearest num den := by
  unfold ofRatio at read
  split at read
  · cases read
    exact ⟨rfl, rfl⟩
  · cases read

/-- What is read from a decimal is off by a small part of it, unless it is tiny. -/
theorem abs_sub_le_of_eq_ofDecimal {s negative : Bool} {units d : Nat} {fits : Fits units} {e : Int}
    (read : finite s units fits = ofDecimal negative d e) (large : 2 ^ 52 < units) :
    |(units : ℚ) / one - d * 10 ^ e| ≤ d * 10 ^ e / 2 ^ 53 := by
  have positive : (0 : ℚ) < one := Nat.cast_pos.2 one_pos
  have counted := (eq_of_eq_ofRatio read).2
  have near := abs_nearest_sub_le_of_lt (timesPowerOfTen_pos _ Nat.one_pos e) (counted ▸ large)
  rw [← counted, timesPowerOfTen_div, Nat.cast_mul, Nat.cast_one] at near
  have scaled : (units : ℚ) / one - d * 10 ^ e = (units - d * one / 1 * 10 ^ e) / one := by
    field_simp
  rw [scaled, abs_div, abs_of_pos positive, div_le_iff₀ positive]
  linarith

/-! ## Rounding to significant digits -/

variable {k : Nat} {negative : Bool} {units : Nat} {fits : Fits units}

/-- The power of ten that leaves as many digits before the point. -/
theorem places_bounds (k : Nat) (nonzero : units ≠ 0) :
    (10 : ℚ) ^ k ≤ units / one * 10 ^ ((k : Int) - leadingExponent units one) ∧
      (units : ℚ) / one * 10 ^ ((k : Int) - leadingExponent units one) < 10 ^ (k + 1) := by
  obtain ⟨below, above⟩ := leadingExponent_bounds (Nat.pos_of_ne_zero nonzero) one_pos
  generalize leadingExponent units one = leading at below above ⊢
  have ten : (10 : ℚ) ≠ 0 := by norm_num
  have positive : (0 : ℚ) < 10 ^ ((k : Int) - leading) := zpow_pos (by norm_num) _
  constructor
  · calc (10 : ℚ) ^ k
      _ = 10 ^ leading * 10 ^ ((k : Int) - leading) := by
        rw [← zpow_add₀ ten, add_sub_cancel, zpow_natCast]
      _ ≤ units / one * 10 ^ ((k : Int) - leading) := mul_le_mul_of_nonneg_right below positive.le
  · calc (units : ℚ) / one * 10 ^ ((k : Int) - leading)
      _ < 10 ^ (leading + 1) * 10 ^ ((k : Int) - leading) := mul_lt_mul_of_pos_right above positive
      _ = 10 ^ (k + 1) := by
        rw [← zpow_add₀ ten, ← zpow_natCast]
        congr 1
        omega

theorem roundSignificant_eq (k : Nat) (nonzero : units ≠ 0) :
    let places := (k : Int) - leadingExponent units one
    let scaled := timesPowerOfTen units one places
    roundSignificant (k + 1) (finite negative units fits) =
      ofDecimal negative (roundDiv scaled.1 scaled.2) (-places) := by
  have digits : ((max (k + 1) 1 : Nat) : Int) - 1 = k := by omega
  simp only [roundSignificant, nonzero, if_false, digits]

/-- The decimal to which a number is rounded, and how near it is. -/
theorem exists_roundSignificant_eq (k : Nat) (nonzero : units ≠ 0) :
    ∃ (d : Nat) (p : Int),
      roundSignificant (k + 1) (finite negative units fits) = ofDecimal negative d (-p) ∧
      |(d : ℚ) - units / one * 10 ^ p| ≤ 1 / 2 ∧
      10 ^ k ≤ (units : ℚ) / one * 10 ^ p ∧ (units : ℚ) / one * 10 ^ p < 10 ^ (k + 1) := by
  have near := abs_roundDiv_sub_le
    (timesPowerOfTen units one ((k : Int) - leadingExponent units one)).1
    (timesPowerOfTen_pos units one_pos ((k : Int) - leadingExponent units one))
  rw [timesPowerOfTen_div] at near
  exact ⟨_, _, roundSignificant_eq k nonzero, near, places_bounds k nonzero⟩

theorem le_pow_of_near {d : Nat} {v : ℚ} (near : |(d : ℚ) - v| ≤ 1 / 2) (above : v < 10 ^ (k + 1)) :
    d ≤ 10 ^ (k + 1) := by
  have below : (d : ℚ) < (10 ^ (k + 1) + 1 : Nat) := by
    push_cast
    linarith [(abs_le.1 near).2]
  exact Nat.lt_succ_iff.1 (Nat.cast_lt.1 below)

/-! ## Decimals survive -/

theorem pow_digits_le (fine : k < 15) : (10 : ℚ) ^ (k + 1) ≤ 10 ^ 15 :=
  pow_le_pow_right₀ (by norm_num) (by omega)

/-- A decimal of few digits is a whole number once the number read from it has as many digits before
the point. The number can only have one digit more than the decimal if it was read from a power of
ten. -/
theorem exists_natCast_eq (fine : k < 15) {d : Nat} (short : d ≤ 10 ^ (k + 1)) {e p : Int} {v : ℚ}
    (near : |v - d * 10 ^ e| ≤ d * 10 ^ e / 2 ^ 53) (lead : 10 ^ k ≤ v * 10 ^ p) :
    ∃ n : Nat, (n : ℚ) = d * 10 ^ e * 10 ^ p := by
  have ten : (10 : ℚ) ≠ 0 := by norm_num
  rw [mul_assoc, ← zpow_add₀ ten]
  by_cases right : 0 ≤ e + p
  · obtain ⟨m, shift⟩ := Int.eq_ofNat_of_zero_le right
    refine ⟨d * 10 ^ m, ?_⟩
    rw [shift, zpow_natCast]
    push_cast
    ring
  · obtain ⟨j, shift⟩ : ∃ j : Nat, e + p = -(j + 1 : Nat) := ⟨(-(e + p) - 1).toNat, by omega⟩
    have scale : (0 : ℚ) < 10 ^ p := zpow_pos (by norm_num) p
    have power : (0 : ℚ) < 10 ^ (j + 1) := by positivity
    have short' : (d : ℚ) ≤ 10 ^ (k + 1) := by exact_mod_cast short
    have shifted : (d : ℚ) * 10 ^ e * 10 ^ p = d / 10 ^ (j + 1) := by
      rw [mul_assoc, ← zpow_add₀ ten, shift, zpow_neg, zpow_natCast]
      rfl
    -- The number has its first digit where the decimal would have a digit too many.
    have reached : (10 : ℚ) ^ k ≤ (d + d / 2 ^ 53) / 10 ^ (j + 1) := by
      calc (10 : ℚ) ^ k
        _ ≤ v * 10 ^ p := lead
        _ ≤ (d * 10 ^ e + d * 10 ^ e / 2 ^ 53) * 10 ^ p := by
          refine mul_le_mul_of_nonneg_right ?_ scale.le
          linarith [(abs_le.1 near).2]
        _ = d * 10 ^ e * 10 ^ p + d * 10 ^ e * 10 ^ p / 2 ^ 53 := by ring
        _ = (d + d / 2 ^ 53) / 10 ^ (j + 1) := by
          rw [shifted]
          ring
    rw [le_div_iff₀ power, ← pow_add] at reached
    have below : ((10 ^ (k + (j + 1)) : Nat) : ℚ) < (d + 1 : Nat) := by
      push_cast
      have : (d : ℚ) / 2 ^ 53 < 1 := by
        rw [div_lt_one (by norm_num)]
        calc (d : ℚ)
          _ ≤ 10 ^ 15 := short'.trans (pow_digits_le fine)
          _ < 2 ^ 53 := by norm_num
      linarith
    have whole : 10 ^ (k + (j + 1)) ≤ d := Nat.lt_succ_iff.1 (Nat.cast_lt.1 below)
    have width := (Nat.pow_le_pow_iff_right (by decide)).1 (whole.trans short)
    obtain rfl : j = 0 := by omega
    obtain rfl : d = 10 ^ (k + 1) := Nat.le_antisymm short whole
    refine ⟨10 ^ k, ?_⟩
    rw [shift]
    push_cast
    rw [pow_succ]
    field_simp

/-- Rounding to as many digits finds the decimal that a number was read from. -/
theorem roundSignificant_ofDecimal (fine : k < 15) {d : Nat} {e : Int} (short : d ≤ 10 ^ (k + 1))
    (read : finite negative units fits = ofDecimal negative d e) (large : 2 ^ 52 < units) :
    roundSignificant (k + 1) (finite negative units fits) = finite negative units fits := by
  have near := abs_sub_le_of_eq_ofDecimal read large
  have nonzero : units ≠ 0 := by omega
  obtain ⟨below, above⟩ := places_bounds k nonzero
  rw [roundSignificant_eq k nonzero]
  generalize (k : Int) - leadingExponent units one = p at below above ⊢
  obtain ⟨n, whole⟩ := exists_natCast_eq fine short near below
  have scale : (0 : ℚ) < 10 ^ p := zpow_pos (by norm_num) p
  have close : |(n : ℚ) - units / one * 10 ^ p| ≤ n / 2 ^ 53 := by
    calc |(n : ℚ) - units / one * 10 ^ p|
      _ = |(units : ℚ) / one - d * 10 ^ e| * 10 ^ p := by
        rw [whole, ← sub_mul, abs_mul, abs_of_pos scale, abs_sub_comm]
      _ ≤ d * 10 ^ e / 2 ^ 53 * 10 ^ p := mul_le_mul_of_nonneg_right near scale.le
      _ = n / 2 ^ 53 := by
        rw [whole]
        ring
  have few : (n : ℚ) < 2 * 10 ^ 15 := by
    have := (abs_le.1 close).2
    have := pow_digits_le fine
    linarith
  have half : |(n : ℚ) - units / one * 10 ^ p| < 1 / 2 := by
    refine close.trans_lt ?_
    linarith
  rw [← timesPowerOfTen_div] at half
  rw [roundDiv_eq_of_abs_sub_lt (timesPowerOfTen_pos _ one_pos p) half, read]
  refine ofDecimal_eq_of_eq ?_
  rw [whole, mul_assoc, ← zpow_add₀ (by norm_num), add_neg_cancel, zpow_zero, mul_one]

/-- Rounding twice changes nothing. -/
theorem roundSignificant_idempotent (fine : k < 15) {x : Binary64}
    (rounded : roundSignificant (k + 1) x = finite negative units fits) (large : 2 ^ 52 < units) :
    roundSignificant (k + 1) (finite negative units fits) = finite negative units fits := by
  cases x with
  | nan | infinite _ => cases rounded
  | finite s given fits' =>
    by_cases zero : given = 0
    · simp only [roundSignificant, zero, if_true] at rounded
      cases rounded
      omega
    · obtain ⟨d, p, decimal, near, _, above⟩ := exists_roundSignificant_eq k zero
      rw [decimal] at rounded
      obtain ⟨rfl, _⟩ := eq_of_eq_ofRatio rounded.symm
      exact roundSignificant_ofDecimal fine (le_pow_of_near near above) rounded.symm large

/-! ## Numbers that are no integers -/

theorem step_two_pow_mul_one : step (2 ^ 52 * one) = one := by
  unfold step one
  rw [← Nat.pow_add, Nat.log2_two_pow, Nat.add_sub_cancel_left]

/-- A number that is no integer is small enough to have binary digits behind the point. -/
theorem units_lt_of_toInt?_eq_none (broken : (finite negative units fits).toInt? = none) :
    units < 2 ^ 52 * one := by
  by_contra large
  have coarse := step_dvd_step (Nat.not_lt.1 large)
  rw [step_two_pow_mul_one] at coarse
  obtain ⟨n, whole⟩ := coarse.trans fits.2
  have integer := @toInt?_whole negative n (by rwa [Nat.mul_comm, ← whole])
  simp only [Nat.mul_comm n, ← whole, broken] at integer
  cases integer

/-- Reading a decimal that is no greater than a number of the format does not go beyond it. -/
theorem ofDecimal_le {d m : Nat} {e : Int} (fits : Fits m) (le : (d : ℚ) * 10 ^ e * one ≤ m) :
    ∃ units fits', ofDecimal negative d e = finite negative units fits' ∧ units ≤ m := by
  have positive := timesPowerOfTen_pos (d * one) Nat.one_pos e
  have bound : nearest (timesPowerOfTen (d * one) 1 e).1 (timesPowerOfTen (d * one) 1 e).2 ≤ m := by
    refine nearest_le_of_fits fits positive ?_
    have positive' : (0 : ℚ) < (timesPowerOfTen (d * one) 1 e).2 := Nat.cast_pos.2 positive
    have scaled := timesPowerOfTen_div (d * one) 1 e
    rw [Nat.cast_mul, Nat.cast_one, div_eq_iff positive'.ne'] at scaled
    have : ((timesPowerOfTen (d * one) 1 e).1 : ℚ) ≤ m * (timesPowerOfTen (d * one) 1 e).2 := by
      rw [scaled]
      refine mul_le_mul_of_nonneg_right ?_ positive'.le
      linarith
    exact_mod_cast this
  have below := Nat.lt_of_le_of_lt bound fits.1
  refine ⟨_, fits_nearest below, ?_, bound⟩
  simp only [ofDecimal, ofRatio, below, dif_pos]

/-- Reading a decimal that is no less than a number of the format does not stay below it. -/
theorem le_of_eq_ofDecimal {s : Bool} {d m : Nat} {e : Int}
    (read : finite s units fits = ofDecimal negative d e) (fits' : Fits m)
    (le : (m : ℚ) ≤ d * 10 ^ e * one) : m ≤ units := by
  have positive := timesPowerOfTen_pos (d * one) Nat.one_pos e
  have positive' : (0 : ℚ) < (timesPowerOfTen (d * one) 1 e).2 := Nat.cast_pos.2 positive
  have scaled := timesPowerOfTen_div (d * one) 1 e
  rw [Nat.cast_mul, Nat.cast_one, div_eq_iff positive'.ne'] at scaled
  have le' : (m : ℚ) * (timesPowerOfTen (d * one) 1 e).2 ≤ (timesPowerOfTen (d * one) 1 e).1 := by
    rw [scaled]
    refine mul_le_mul_of_nonneg_right ?_ positive'.le
    linarith
  rw [(eq_of_eq_ofRatio read).2]
  exact le_nearest_of_fits fits' positive (by exact_mod_cast le')

/-- Rounding stays within the safe range. -/
theorem roundSignificant_le (k : Nat) (negative : Bool) (fits : Fits units) (nonzero : units ≠ 0)
    (small : units ≤ 2 ^ 52 * one) :
    ∃ units' fits', roundSignificant (k + 1) (finite negative units fits) =
      finite negative units' fits' ∧ units' ≤ (2 ^ 53 - 1) * one := by
  obtain ⟨d, p, decimal, near, below, _⟩ :=
    @exists_roundSignificant_eq negative units fits k nonzero
  have positive : (0 : ℚ) < one := Nat.cast_pos.2 one_pos
  have scale : (0 : ℚ) < 10 ^ p := zpow_pos (by norm_num) p
  have one_le : (1 : ℚ) ≤ 10 ^ k := one_le_pow₀ (by norm_num)
  have small' : (units : ℚ) / one ≤ 2 ^ 52 := by
    rw [div_le_iff₀ positive]
    exact_mod_cast small
  -- A number with a digit before the point gets larger by no more than half of it.
  have grown : (d : ℚ) * 10 ^ (-p) ≤ 3 / 2 * 2 ^ 52 := by
    rw [zpow_neg, ← div_eq_mul_inv, div_le_iff₀ scale]
    calc (d : ℚ)
      _ ≤ 3 / 2 * (units / one * 10 ^ p) := by linarith [(abs_le.1 near).2]
      _ = 3 / 2 * (units / one) * 10 ^ p := by ring
      _ ≤ 3 / 2 * 2 ^ 52 * 10 ^ p := by
        refine mul_le_mul_of_nonneg_right ?_ scale.le
        linarith
  rw [decimal]
  refine ofDecimal_le (fits_whole (by decide)) ?_
  rw [Nat.cast_mul]
  refine mul_le_mul_of_nonneg_right (grown.trans ?_) positive.le
  norm_num

end Reckoner.Binary64
