import Reckoner.Binary64.Shortest
import Reckoner.Proofs.Binary64.Significant

/-!
# Shortest decimals

The shortest decimal of a number reads back to it, `ofDecimal_shortest`. Either it was tried, or it
has 17 digits: a decimal of 17 digits is so near that no other number of the format is nearer,
`nearest_of_near`. How large the decimal can be follows from how large the numbers of the format
are, `decimal_bounds`.
-/

namespace Reckoner.Binary64

-- Powers are those of the core library, whatever else is in scope.
attribute [local instance (high)] instPowNat

-- No proof should compute these powers.
attribute [local irreducible] one limit unitPlaces wholePlaces

variable {units num den : Nat}

/-! ## Near quotients -/

theorem lt_floor_add_one (num : Nat) (positive : 0 < den) :
    (num : ℚ) / den < (num / den : Nat) + 1 := by
  rw [div_lt_iff₀ (Nat.cast_pos.2 positive)]
  exact_mod_cast (Nat.div_lt_iff_lt_mul positive).1 (Nat.lt_succ_self (num / den))

/-- The distance does not grow before the next power of two. -/
theorem step_dvd_of_step_mul_le {n : Nat} (le : step n * 2 ^ 52 ≤ units) : step n ∣ step units := by
  have same : step (step n * 2 ^ 52) = step n := by
    unfold step
    rw [← Nat.pow_add, Nat.log2_two_pow, Nat.add_sub_cancel]
  exact same ▸ step_dvd_step le

/-- A count that occurs is on the grid of a quotient that is off by a small part of it. -/
theorem step_dvd_of_near (fits : Fits units)
    (near : |(num : ℚ) / den - units| ≤ units / (2 * 10 ^ 16)) : step (num / den) ∣ units := by
  rcases le_or_gt (num / den) units with below | above
  · exact (step_dvd_step below).trans fits.2
  · by_cases small : num / den < 2 ^ 53
    · rw [step_of_lt small]
      exact Nat.one_dvd units
    · have large : step (num / den) * 2 ^ 52 ≤ num / den := step_mul_le (by omega)
      rcases le_or_gt (step (num / den) * 2 ^ 52) units with up | down
      · exact (step_dvd_of_step_mul_le up).trans fits.2
      · -- The next count on the finer grid is not beyond the quotient, which is too far away.
        exfalso
        have fine : step units ∣ step (num / den) * 2 ^ 52 :=
          (step_dvd_step above.le).trans (Nat.dvd_mul_right _ _)
        have gap : step units ≤ step (num / den) * 2 ^ 52 - units :=
          Nat.le_of_dvd (Nat.sub_pos_of_lt down) (Nat.dvd_sub fine fits.2)
        have far : ((units + step units : Nat) : ℚ) ≤ num / den := by
          calc ((units + step units : Nat) : ℚ)
            _ ≤ (num / den : Nat) := by exact_mod_cast (by omega : units + step units ≤ num / den)
            _ ≤ num / den := Nat.cast_div_le
        have short : (units : ℚ) < 2 ^ 53 * step units := by exact_mod_cast lt_step units
        have near := (abs_le.1 near).2
        push_cast at far
        linarith

/-- A count that occurs is the nearest one to a quotient that is off by a small part of it. -/
theorem nearest_of_near (fits : Fits units) (positive : 0 < den)
    (near : |(num : ℚ) / den - units| ≤ units / (2 * 10 ^ 16)) : nearest num den = units := by
  obtain ⟨j, multiple⟩ := step_dvd_of_near fits near
  have short : (num : ℚ) / den < 2 ^ 53 * step (num / den) := by
    calc (num : ℚ) / den
      _ < (num / den : Nat) + 1 := lt_floor_add_one num positive
      _ ≤ 2 ^ 53 * step (num / den) := by exact_mod_cast lt_step (num / den)
  have distance : (0 : ℚ) < step (num / den) := Nat.cast_pos.2 (step_pos _)
  have close : |(num : ℚ) / den - units| < step (num / den) / 2 := by
    have := (abs_le.1 near).1
    linarith
  have rounded : roundDiv num (den * step (num / den)) = j := by
    refine roundDiv_eq_of_abs_sub_lt (Nat.mul_pos positive (step_pos _)) ?_
    have scaled : (j : ℚ) - num / (den * step (num / den) : Nat) =
        (units - num / den) / step (num / den) := by
      have whole : (units : ℚ) = step (num / den) * j := by exact_mod_cast multiple
      rw [whole, Nat.cast_mul]
      field_simp
    rw [scaled, abs_div, abs_of_pos distance, div_lt_iff₀ distance, abs_sub_comm]
    linarith
  rw [nearest, rounded, Nat.mul_comm, ← multiple]

/-! ## Reading back -/

theorem readsBack_iff {c : Nat} {e : Int} (fits : Fits units) :
    readsBack units c e = true ↔
      nearest (timesPowerOfTen (c * one) 1 e).1 (timesPowerOfTen (c * one) 1 e).2 = units := by
  simp only [readsBack, ofDecimal, ofRatio]
  split
  · simp [units?]
  · rename_i large
    simp only [units?, reduceCtorEq, beq_iff_eq, false_iff]
    exact fun same => large (same ▸ fits.1)

theorem ofDecimal_of_readsBack {c : Nat} {e : Int} (fits : Fits units)
    (reads : readsBack units c e = true) (negative : Bool) :
    ofDecimal negative c e = .finite negative units fits := by
  simp only [ofDecimal, ofRatio, (readsBack_iff fits).1 reads, fits.1, dite_true]

theorem readsBack_of_onGrid? {c : Nat} {e : Int} (found : onGrid? units e = some c) :
    readsBack units c e = true := by
  simp only [onGrid?] at found
  split at found
  · rename_i floor
    split at found
    · rename_i above
      cases found
      rcases roundDiv_cases (timesPowerOfTen units one (-e)).1 (timesPowerOfTen units one (-e)).2 with
        ⟨down, _⟩ | ⟨up, _⟩
      · rwa [down]
      · rwa [up]
    · cases found
      exact floor
  · split at found
    · rename_i above
      cases found
      exact above
    · cases found

/-- Seventeen digits are enough. -/
theorem readsBack_roundedDecimal (fits : Fits units) (nonzero : units ≠ 0) :
    readsBack units (roundedDecimal units maxDigits).1 (roundedDecimal units maxDigits).2 = true := by
  rw [readsBack_iff fits]
  refine nearest_of_near fits (timesPowerOfTen_pos _ Nat.one_pos _) ?_
  rw [timesPowerOfTen_div]
  simp only [roundedDecimal]
  obtain ⟨below, _⟩ := leadingExponent_bounds (Nat.pos_of_ne_zero nonzero) one_pos
  have split : leadingExponent units one = leadingExponent units one + 1 - maxDigits + (16 : Nat) := by
    simp only [maxDigits]
    omega
  rw [split] at below
  generalize leadingExponent units one + 1 - maxDigits = e at below ⊢
  have positive : (0 : ℚ) < one := Nat.cast_pos.2 one_pos
  have grid : (0 : ℚ) < 10 ^ e := zpow_pos (by norm_num) _
  have rounded := abs_roundDiv_sub_le (timesPowerOfTen units one (-e)).1
    (timesPowerOfTen_pos units one_pos (-e))
  rw [timesPowerOfTen_div] at rounded
  generalize roundDiv _ _ = c at rounded ⊢
  have scaled : ((c * one : Nat) : ℚ) / (1 : Nat) * 10 ^ e - units =
      (c - units / one * 10 ^ (-e)) * (10 ^ e * one) := by
    rw [zpow_neg]
    push_cast
    field_simp
  have spacing : 10 ^ e * 10 ^ 16 * (one : ℚ) ≤ units := by
    rw [zpow_add₀ (by norm_num), zpow_natCast, le_div_iff₀ positive] at below
    exact below
  rw [scaled, abs_mul, abs_of_pos (mul_pos grid positive)]
  calc |(c : ℚ) - units / one * 10 ^ (-e)| * (10 ^ e * one)
    _ ≤ 1 / 2 * (10 ^ e * one) := mul_le_mul_of_nonneg_right rounded (mul_pos grid positive).le
    _ ≤ units / (2 * 10 ^ 16) := by
      rw [le_div_iff₀ (by norm_num)]
      linarith

theorem readsBack_shortest (fits : Fits units) (nonzero : units ≠ 0) :
    readsBack units (shortest units).1 (shortest units).2 = true := by
  unfold shortest
  cases tried : (List.range' 1 maxDigits).findSome? (exactDecimal? units) with
  | none => exact readsBack_roundedDecimal fits nonzero
  | some found =>
    obtain ⟨digits, _, exact⟩ := List.exists_of_findSome?_eq_some tried
    obtain ⟨c, onGrid, rfl⟩ := Option.map_eq_some_iff.1 exact
    exact readsBack_of_onGrid? onGrid

/-- The shortest decimal of a number reads back to it. -/
theorem ofDecimal_shortest (fits : Fits units) (nonzero : units ≠ 0) (negative : Bool) :
    ofDecimal negative (shortest units).1 (shortest units).2 = .finite negative units fits :=
  ofDecimal_of_readsBack fits (readsBack_shortest fits nonzero) negative

/-! ## How large a decimal is -/

/-- A quotient that is rounded to a positive count of the format is not much smaller and not much
larger. -/
theorem bounds_of_nearest (fits : Fits units) (nonzero : units ≠ 0) (positive : 0 < den)
    (rounded : nearest num den = units) : 1 / 2 ≤ (num : ℚ) / den ∧ (num : ℚ) / den ≤ 2 * limit := by
  have near := abs_le.1 (abs_nearest_sub_le num positive)
  rw [rounded] at near
  have low : (1 : ℚ) ≤ units := by exact_mod_cast Nat.one_le_iff_ne_zero.2 nonzero
  have high : (units : ℚ) + 1 ≤ limit := by exact_mod_cast fits.1
  by_cases small : num / den < 2 ^ 53
  · rw [step_of_lt small, Nat.cast_one] at near
    constructor <;> linarith
  · have part : (step (num / den) : ℚ) * 2 ^ 52 ≤ (num / den : Nat) := by
      exact_mod_cast step_mul_le (by omega)
    have floor : ((num / den : Nat) : ℚ) ≤ num / den := Nat.cast_div_le
    constructor <;> linarith

theorem two_mul_two_pow_lt {k n : Nat} (small : k + 1 ≤ 3 * n) (positive : n ≠ 0) :
    (2 : ℚ) * 2 ^ k < 10 ^ n := by
  have cube : (2 : ℚ) ^ 3 < 10 := by norm_num
  calc (2 : ℚ) * 2 ^ k
    _ = 2 ^ (k + 1) := (pow_succ' 2 k).symm
    _ ≤ 2 ^ (3 * n) := pow_le_pow_right₀ (by norm_num) small
    _ = (2 ^ 3) ^ n := pow_mul 2 3 n
    _ < 10 ^ n := pow_lt_pow_left₀ cube (by norm_num) positive

/-- A decimal that reads back to a positive number is not tiny and not huge. -/
theorem decimal_bounds {c n : Nat} {e : Int} (fits : Fits units) (nonzero : units ≠ 0)
    (reads : readsBack units c e = true) (wide : 400 ≤ n) :
    1 < (c : ℚ) * 10 ^ e * 10 ^ n ∧ (c : ℚ) * 10 ^ e < 10 ^ n := by
  obtain ⟨low, high⟩ := bounds_of_nearest fits nonzero (timesPowerOfTen_pos _ Nat.one_pos _)
    ((readsBack_iff fits).1 reads)
  rw [timesPowerOfTen_div, Nat.cast_mul, Nat.cast_one, div_one] at low high
  have positive : (0 : ℚ) < one := Nat.cast_pos.2 one_pos
  have unit : (one : ℚ) = 2 ^ unitPlaces := by
    rw [one, Nat.cast_pow, Nat.cast_ofNat]
  have range : (limit : ℚ) = 2 ^ wholePlaces * one := by
    rw [limit, unit, Nat.cast_pow, Nat.cast_ofNat, pow_add]
  have unitBound : 2 * (one : ℚ) < 10 ^ n :=
    unit ▸ two_mul_two_pow_lt (by simp only [unitPlaces]; omega) (by omega)
  have wholeBound : (2 : ℚ) * 2 ^ wholePlaces < 10 ^ n :=
    two_mul_two_pow_lt (by simp only [wholePlaces]; omega) (by omega)
  rw [range] at high
  have value : (1 : ℚ) / 2 ≤ c * 10 ^ e * one := by linarith
  have value' : (c : ℚ) * 10 ^ e * one ≤ 2 * 2 ^ wholePlaces * one := by linarith
  constructor
  · have present : (0 : ℚ) < c * 10 ^ e := by
      have : (0 : ℚ) < c * 10 ^ e * one := by linarith
      exact (pos_iff_pos_of_mul_pos this).2 positive
    calc (1 : ℚ)
      _ ≤ c * 10 ^ e * (2 * one) := by linarith
      _ < c * 10 ^ e * 10 ^ n := mul_lt_mul_of_pos_left unitBound present
  · calc (c : ℚ) * 10 ^ e
      _ ≤ 2 * 2 ^ wholePlaces := le_of_mul_le_mul_right value' positive
      _ < 10 ^ n := wholeBound

end Reckoner.Binary64
