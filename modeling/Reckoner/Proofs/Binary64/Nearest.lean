import Mathlib.Algebra.Order.Field.Power
import Mathlib.Algebra.Order.Field.Rat
import Mathlib.Algebra.Order.Ring.Abs
import Mathlib.Data.Nat.Cast.Order.Field
import Mathlib.Tactic.FieldSimp
import Mathlib.Tactic.Linarith
import Mathlib.Tactic.NormNum
import Mathlib.Tactic.Positivity
import Mathlib.Tactic.Ring
import Reckoner.Binary64.Decimal

/-!
# How far rounding goes

Rounding works on numerators and denominators; here it is compared with the quotient itself, as a
rational number.

* An integer nearest to a quotient is off by at most a half, `abs_roundDiv_sub_le`, and an integer
  that is off by less is the nearest one, `roundDiv_eq_of_abs_sub_lt`.
* A rounded count of units is off by at most half the local distance, `abs_nearest_sub_le`, hence by
  a small part of itself unless it is tiny, `abs_nearest_sub_le_of_lt`.
* Only the quotient counts, `nearest_eq_of_div_eq`, and no count of the format is passed by,
  `nearest_le_of_fits` and `le_nearest_of_fits`.
* A quotient is at least the power of ten of its leading digit, and less than ten times that,
  `leadingExponent_bounds`.
-/

namespace Reckoner

-- Powers are those of the core library, whatever else is in scope.
attribute [local instance (high)] instPowNat

/-! ## Nearest integers -/

/-- Rounding sees the quotient only. -/
theorem roundDiv_mul_right (num den : Nat) {c : Nat} (positive : 0 < c) :
    roundDiv (num * c) (den * c) = roundDiv num den := by
  unfold roundDiv
  have doubled : 2 * (num % den * c) = 2 * (num % den) * c := (Nat.mul_assoc ..).symm
  simp only [Nat.mul_div_mul_right _ _ positive, Nat.mul_mod_mul_right, doubled,
    Nat.mul_lt_mul_right positive]

theorem roundDiv_cases (num den : Nat) :
    (roundDiv num den = num / den ∧ 2 * (num % den) ≤ den) ∨
      (roundDiv num den = num / den + 1 ∧ den ≤ 2 * (num % den)) := by
  simp only [roundDiv]
  split
  · exact .inl ⟨rfl, by omega⟩
  · split
    · exact .inr ⟨rfl, by omega⟩
    · split
      · exact .inl ⟨rfl, by omega⟩
      · exact .inr ⟨rfl, by omega⟩

theorem abs_roundDiv_sub_le (num : Nat) {den : Nat} (positive : 0 < den) :
    |(roundDiv num den : ℚ) - num / den| ≤ 1 / 2 := by
  have positive' : (0 : ℚ) < den := Nat.cast_pos.2 positive
  have divided : (den : ℚ) * (num / den : Nat) + (num % den : Nat) = num := by
    exact_mod_cast Nat.div_add_mod num den
  have split : (num : ℚ) / den = (num / den : Nat) + (num % den : Nat) / den := by
    field_simp
    linarith
  have rest : (0 : ℚ) ≤ (num % den : Nat) / den := by positivity
  have whole : ((num % den : Nat) : ℚ) / den ≤ 1 :=
    div_le_one_of_le₀ (Nat.cast_le.2 (Nat.mod_lt num positive).le) positive'.le
  rw [split, abs_le]
  rcases roundDiv_cases num den with ⟨down, half⟩ | ⟨up, half⟩
  · have half' : ((num % den : Nat) : ℚ) / den ≤ 1 / 2 := by
      rw [div_le_iff₀ positive']
      have : (2 : ℚ) * (num % den : Nat) ≤ den := by exact_mod_cast half
      linarith
    rw [down]
    constructor <;> linarith
  · have half' : 1 / 2 ≤ ((num % den : Nat) : ℚ) / den := by
      rw [le_div_iff₀ positive']
      have : (den : ℚ) ≤ 2 * (num % den : Nat) := by exact_mod_cast half
      linarith
    rw [up, Nat.cast_add, Nat.cast_one]
    constructor <;> linarith

/-- No other integer is nearer than a half. -/
theorem roundDiv_eq_of_abs_sub_lt {num den k : Nat} (positive : 0 < den)
    (near : |(k : ℚ) - num / den| < 1 / 2) : roundDiv num den = k := by
  have rounded := abs_le.1 (abs_roundDiv_sub_le num positive)
  have near := abs_lt.1 near
  have above : ((roundDiv num den : Nat) : ℚ) < (k + 1 : Nat) := by
    rw [Nat.cast_add, Nat.cast_one]
    linarith
  have below : (k : ℚ) < (roundDiv num den + 1 : Nat) := by
    rw [Nat.cast_add, Nat.cast_one]
    linarith
  have := Nat.cast_lt.1 above
  have := Nat.cast_lt.1 below
  omega

/-- Rounding does not go beyond an integer. -/
theorem roundDiv_le_of_le {num den k : Nat} (positive : 0 < den) (le : num ≤ k * den) :
    roundDiv num den ≤ k := by
  have floor : num / den ≤ k := Nat.div_le_of_le_mul (by rwa [Nat.mul_comm])
  rcases roundDiv_cases num den with ⟨down, _⟩ | ⟨up, half⟩
  · omega
  · -- There is a rest, so the floor is not the integer itself.
    have divided := Nat.div_add_mod num den
    have : num / den ≠ k := by
      rintro rfl
      rw [Nat.mul_comm] at le
      omega
    omega

namespace Binary64

/-! ## Nearest counts -/

theorem nearest_mul_right (num den : Nat) {c : Nat} (positive : 0 < c) :
    nearest (num * c) (den * c) = nearest num den := by
  simp only [nearest, Nat.mul_div_mul_right _ _ positive, Nat.mul_right_comm den c,
    roundDiv_mul_right _ _ positive]

theorem nearest_eq_of_div_eq {num den num' den' : Nat} (positive : 0 < den) (positive' : 0 < den')
    (same : (num : ℚ) / den = num' / den') : nearest num den = nearest num' den' := by
  have nonzero : (den : ℚ) ≠ 0 := Nat.cast_ne_zero.2 (Nat.ne_of_gt positive)
  have nonzero' : (den' : ℚ) ≠ 0 := Nat.cast_ne_zero.2 (Nat.ne_of_gt positive')
  have crossed : num * den' = num' * den := by
    exact_mod_cast (div_eq_div_iff nonzero nonzero').1 same
  calc nearest num den
    _ = nearest (num * den') (den * den') := (nearest_mul_right num den positive').symm
    _ = nearest (num' * den) (den' * den) := by rw [crossed, Nat.mul_comm den]
    _ = nearest num' den' := nearest_mul_right num' den' positive

theorem abs_nearest_sub_le (num : Nat) {den : Nat} (positive : 0 < den) :
    |(nearest num den : ℚ) - num / den| ≤ step (num / den) / 2 := by
  have distance : (0 : ℚ) < step (num / den) := Nat.cast_pos.2 (step_pos _)
  have rounded := abs_roundDiv_sub_le num (Nat.mul_pos positive (step_pos (num / den)))
  have scaled : (nearest num den : ℚ) - num / den =
      ((roundDiv num (den * step (num / den)) : ℚ) - num / (den * step (num / den) : Nat)) *
        step (num / den) := by
    rw [nearest, Nat.cast_mul, Nat.cast_mul]
    field_simp
  rw [scaled, abs_mul, abs_of_pos distance]
  calc _
    _ ≤ 1 / 2 * (step (num / den) : ℚ) := mul_le_mul_of_nonneg_right rounded distance.le
    _ = step (num / den) / 2 := by ring

theorem step_dvd_step {a b : Nat} (le : a ≤ b) : step a ∣ step b := by
  refine Nat.pow_dvd_pow 2 (Nat.sub_le_sub_right ?_ 52)
  by_cases zero : a = 0
  · subst zero
    simp
  · exact (Nat.le_log2 (by omega)).2 ((Nat.log2_self_le zero).trans le)

/-- Rounding does not go beyond a count that occurs. -/
theorem nearest_le_of_fits {num den m : Nat} (fits : Fits m) (positive : 0 < den)
    (le : num ≤ m * den) : nearest num den ≤ m := by
  have floor : num / den ≤ m := Nat.div_le_of_le_mul (by rwa [Nat.mul_comm])
  obtain ⟨j, multiple⟩ := (step_dvd_step floor).trans fits.2
  have rounded : roundDiv num (den * step (num / den)) ≤ j := by
    refine roundDiv_le_of_le (Nat.mul_pos positive (step_pos _)) ?_
    calc num
      _ ≤ m * den := le
      _ = step (num / den) * j * den := by rw [← multiple]
      _ = j * (den * step (num / den)) := by ac_rfl
  calc nearest num den
    _ ≤ j * step (num / den) := Nat.mul_le_mul_right _ rounded
    _ = m := by rw [Nat.mul_comm, ← multiple]

/-- Above 52 binary digits the local distance is a small part of the count. -/
theorem step_mul_le {units : Nat} (large : 2 ^ 52 ≤ units) : step units * 2 ^ 52 ≤ units := by
  have nonzero : units ≠ 0 := by
    rintro rfl
    exact absurd large (by decide)
  have digits : 52 ≤ units.log2 := (Nat.le_log2 nonzero).2 large
  calc step units * 2 ^ 52
    _ = 2 ^ (units.log2 - 52 + 52) := (Nat.pow_add ..).symm
    _ = 2 ^ units.log2 := by rw [Nat.sub_add_cancel digits]
    _ ≤ units := Nat.log2_self_le nonzero

/-- Counts of fewer digits are not left out. -/
theorem step_of_lt {units : Nat} (small : units < 2 ^ 53) : step units = 1 := by
  unfold step
  have digits : units.log2 - 52 = 0 := by
    by_cases zero : units = 0
    · subst zero
      decide
    · have := (Nat.log2_lt zero).2 small
      omega
  rw [digits, Nat.pow_zero]

/-- Rounding does not stay below a count that occurs. -/
theorem le_nearest_of_fits {num den m : Nat} (fits : Fits m) (positive : 0 < den)
    (le : m * den ≤ num) : m ≤ nearest num den := by
  have floor : m ≤ num / den := (Nat.le_div_iff_mul_le positive).2 le
  -- The multiples of the local distance up to the quotient are not passed by.
  have kept : ∀ j, j * step (num / den) ≤ num / den → j * step (num / den) ≤ nearest num den := by
    intro j below
    refine Nat.mul_le_mul_right _ (Nat.le_trans ?_ (le_roundDiv _ _))
    rw [← Nat.div_div_eq_div_mul]
    exact (Nat.le_div_iff_mul_le (step_pos _)).2 below
  obtain ⟨j, apart⟩ := step_dvd_step floor
  by_cases coarser : 2 ≤ j
  · -- The least of those with 53 digits is above all counts of a smaller distance.
    have large : 2 ^ 52 ≤ num / den := by
      by_contra small
      have fine := step_of_lt (show num / den < 2 ^ 53 by omega)
      have := Nat.le_mul_of_pos_left j (step_pos m)
      omega
    have least := kept (2 ^ 52) (by simpa only [Nat.mul_comm] using step_mul_le large)
    refine Nat.le_trans (Nat.le_of_lt (lt_step m)) (Nat.le_trans ?_ least)
    rw [apart]
    have := Nat.mul_le_mul_left (step m) coarser
    omega
  · obtain rfl : j = 1 := by
      have nonzero : j ≠ 0 := by
        rintro rfl
        exact absurd apart (Nat.ne_of_gt (step_pos _))
      omega
    rw [Nat.mul_one] at apart
    obtain ⟨i, multiple⟩ := fits.2
    rw [Nat.mul_comm, ← apart] at multiple
    rw [multiple]
    exact kept i (multiple ▸ floor)

theorem abs_nearest_sub_le_of_lt {num den : Nat} (positive : 0 < den)
    (large : 2 ^ 52 < nearest num den) :
    |(nearest num den : ℚ) - num / den| ≤ num / den / 2 ^ 53 := by
  have floor : 2 ^ 52 ≤ num / den := by
    by_contra small
    have fine : step (num / den) = 1 := step_of_lt (by omega)
    have := roundDiv_le num den
    simp only [nearest, fine, Nat.mul_one] at large
    omega
  have part : (step (num / den) : ℚ) * 2 ^ 52 ≤ num / den := by
    calc (step (num / den) : ℚ) * 2 ^ 52
      _ ≤ (num / den : Nat) := by exact_mod_cast step_mul_le floor
      _ ≤ num / den := Nat.cast_div_le
  calc |(nearest num den : ℚ) - num / den|
    _ ≤ step (num / den) / 2 := abs_nearest_sub_le num positive
    _ ≤ num / den / 2 ^ 53 := by
      rw [le_div_iff₀ (by norm_num)]
      linarith

end Binary64

/-! ## Powers of ten -/

theorem timesPowerOfTen_pos (num : Nat) {den : Nat} (positive : 0 < den) (exponent : Int) :
    0 < (timesPowerOfTen num den exponent).2 := by
  unfold timesPowerOfTen
  split
  · exact positive
  · exact Nat.mul_pos positive (Nat.pow_pos (by decide))

theorem timesPowerOfTen_div (num den : Nat) (exponent : Int) :
    ((timesPowerOfTen num den exponent).1 : ℚ) / (timesPowerOfTen num den exponent).2 =
      num / den * 10 ^ exponent := by
  obtain ⟨n, rfl | rfl⟩ := exponent.eq_nat_or_neg
  · have scaled : timesPowerOfTen num den n = (num * 10 ^ n, den) := by
      simp [timesPowerOfTen]
    rw [scaled, zpow_natCast, Nat.cast_mul, Nat.cast_pow, Nat.cast_ofNat]
    ring
  · by_cases zero : n = 0
    · subst zero
      simp [timesPowerOfTen]
    · have scaled : timesPowerOfTen num den (-n) = (num, den * 10 ^ n) := by
        simp [timesPowerOfTen, zero]
      rw [scaled, zpow_neg, zpow_natCast, Nat.cast_mul, Nat.cast_pow, Nat.cast_ofNat]
      field_simp

theorem pow_ilog10_le {n : Nat} (positive : 0 < n) : 10 ^ ilog10 n ≤ n := by
  fun_induction ilog10 n with
  | case1 n small => exact positive
  | case2 n large ih =>
    have := ih (by omega)
    rw [Nat.pow_succ]
    omega

theorem lt_pow_ilog10 (n : Nat) : n < 10 ^ (ilog10 n + 1) := by
  fun_induction ilog10 n with
  | case1 n small => simpa using small
  | case2 n large ih =>
    rw [Nat.pow_succ]
    omega

variable {num den : Nat}

/-- For a quotient below one the exponent is that of the reciprocal, rounded up. -/
theorem reciprocal_bounds (positive : 0 < num) (small : num < den) :
    num * 10 ^ ilog10 ((den + num - 1) / num - 1) < den ∧
      den ≤ num * 10 ^ (ilog10 ((den + num - 1) / num - 1) + 1) := by
  have divided := Nat.div_add_mod (den + num - 1) num
  have rest := Nat.mod_lt (den + num - 1) positive
  obtain ⟨c, ceil⟩ : ∃ c, (den + num - 1) / num = c + 1 := by
    have : 0 < (den + num - 1) / num := Nat.div_pos (by omega) positive
    exact ⟨(den + num - 1) / num - 1, by omega⟩
  rw [ceil, Nat.mul_add, Nat.mul_one] at divided
  rw [ceil, Nat.add_sub_cancel]
  have nonzero : 0 < c := by
    refine Nat.pos_of_ne_zero ?_
    rintro rfl
    omega
  constructor
  · calc num * 10 ^ ilog10 c
      _ ≤ num * c := Nat.mul_le_mul_left num (pow_ilog10_le nonzero)
      _ < den := by omega
  · calc den
      _ ≤ num * (c + 1) := by
        rw [Nat.mul_add, Nat.mul_one]
        omega
      _ ≤ num * 10 ^ (ilog10 c + 1) := Nat.mul_le_mul_left num (lt_pow_ilog10 c)

theorem leadingExponent_bounds (positive : 0 < num) (positive' : 0 < den) :
    (10 : ℚ) ^ leadingExponent num den ≤ num / den ∧
      (num : ℚ) / den < 10 ^ (leadingExponent num den + 1) := by
  have den0 : (0 : ℚ) < den := Nat.cast_pos.2 positive'
  unfold leadingExponent
  split
  · rename_i large
    have floor : 0 < num / den := Nat.div_pos large positive'
    have below : 10 ^ ilog10 (num / den) * den ≤ num :=
      (Nat.le_div_iff_mul_le positive').1 (pow_ilog10_le floor)
    have above : num < 10 ^ (ilog10 (num / den) + 1) * den :=
      (Nat.div_lt_iff_lt_mul positive').1 (lt_pow_ilog10 _)
    rw [le_div_iff₀ den0, div_lt_iff₀ den0, ← Nat.cast_succ, zpow_natCast, zpow_natCast]
    exact ⟨by exact_mod_cast below, by exact_mod_cast above⟩
  · rename_i small
    obtain ⟨below, above⟩ := reciprocal_bounds positive (Nat.not_le.1 small)
    generalize ilog10 ((den + num - 1) / num - 1) = n at below above
    have shifted : -((n : Int) + 1) + 1 = -n := by ring
    rw [shifted, ← Nat.cast_succ, zpow_neg, zpow_neg, zpow_natCast, zpow_natCast]
    have ten : (0 : ℚ) < 10 ^ n := by positivity
    have ten' : (0 : ℚ) < 10 ^ n.succ := by positivity
    constructor
    · rw [inv_le_comm₀ ten' (by positivity), inv_div, div_le_iff₀ (Nat.cast_pos.2 positive)]
      rw [mul_comm]
      exact_mod_cast above
    · rw [lt_inv_comm₀ (by positivity) ten, inv_div, lt_div_iff₀ (Nat.cast_pos.2 positive)]
      rw [mul_comm]
      exact_mod_cast below

end Reckoner
