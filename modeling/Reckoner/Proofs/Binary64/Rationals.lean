import Reckoner.Proofs.Binary64.Significant

/-!
# Binary64 numbers as rational numbers

`toRat` is the rational number that a finite number is. Two numbers of the format are the same as
soon as they are the same rational number other than zero, `eq_of_toRat_eq`, and the integers among
them are those that are integral as rational numbers, `toRat_eq_intCast_iff`.

Rounding to 15 significant digits moves a number by at most one unit of the last of them,
`abs_toRat_roundSignificant_sub_le`: half a unit is lost to the decimal, and less than another half
when the decimal is read back.
-/

namespace Reckoner.Binary64

-- Powers are those of the core library, whatever else is in scope.
attribute [local instance (high)] instPowNat

-- No proof should compute this power.
attribute [local irreducible] one

/-- The rational number that a finite number is. -/
def toRat : Binary64 → ℚ
  | finite negative units _ => signedUnits negative units / one
  | nan | infinite _ => 0

section Finite

variable {negative : Bool} {units : Nat} {fits : Fits units}

theorem toRat_finite : (finite negative units fits).toRat = signedUnits negative units / one :=
  rfl

theorem cast_one_pos : (0 : ℚ) < one :=
  Nat.cast_pos.2 one_pos

theorem signedUnits_not (negative : Bool) (units : Nat) :
    signedUnits (!negative) units = -signedUnits negative units := by
  cases negative <;> simp [signedUnits]

theorem abs_signedUnits (negative : Bool) (units : Nat) :
    |(signedUnits negative units : ℚ)| = units := by
  cases negative <;> simp [signedUnits]

theorem abs_toRat : |(finite negative units fits).toRat| = units / one := by
  rw [toRat_finite, abs_div, abs_signedUnits, abs_of_pos cast_one_pos]

theorem toRat_eq_zero_iff : (finite negative units fits).toRat = 0 ↔ units = 0 := by
  rw [← abs_eq_zero, abs_toRat, div_eq_zero_iff, Nat.cast_eq_zero]
  simp [cast_one_pos.ne']

end Finite

/-- Only zero has two signs. -/
theorem eq_of_toRat_eq {x y : Binary64} (isFinite : x.isFinite = true)
    (isFinite' : y.isFinite = true) (same : x.toRat = y.toRat) (nonzero : x.toRat ≠ 0) : x = y := by
  cases x with
  | nan | infinite _ => cases isFinite
  | finite s a fits =>
    cases y with
    | nan | infinite _ => cases isFinite'
    | finite t b fits' =>
      have counted : signedUnits s a = signedUnits t b := by
        rw [toRat_finite, toRat_finite, div_left_inj' cast_one_pos.ne'] at same
        exact_mod_cast same
      obtain rfl : a = b := by
        have := congrArg Int.natAbs counted
        rwa [natAbs_signedUnits, natAbs_signedUnits] at this
      have positive : a ≠ 0 := mt toRat_eq_zero_iff.2 nonzero
      obtain rfl : s = t := by
        by_contra other
        obtain rfl := Bool.eq_not_of_ne other
        have counted' := natAbs_signedUnits t a
        rw [signedUnits_not] at counted
        omega
      rfl

theorem toRat_eq_intCast_iff {x : Binary64} (isFinite : x.isFinite = true) {z : Int} :
    x.toRat = z ↔ x.toInt? = some z := by
  rw [toInt?_eq_some]
  constructor
  · intro whole
    cases x with
    | nan | infinite _ => cases isFinite
    | finite negative units fits =>
      have counted : signedUnits negative units = z * one := by
        rw [toRat_finite, div_eq_iff cast_one_pos.ne'] at whole
        exact_mod_cast whole
      obtain rfl : units = z.natAbs * one := by
        have := congrArg Int.natAbs counted
        rwa [natAbs_signedUnits, Int.natAbs_mul, Int.natAbs_natCast] at this
      rw [signedUnits_mul] at counted
      have positive : (one : Int) ≠ 0 := Int.natCast_ne_zero.2 one_pos.ne'
      exact ⟨negative, fits, rfl, Int.eq_of_mul_eq_mul_right positive counted⟩
  · rintro ⟨negative, fits, rfl, sign⟩
    rw [toRat_finite, signedUnits_mul, sign]
    push_cast
    rw [mul_div_cancel_right₀ _ cast_one_pos.ne']

theorem isFinite_of_toInt? {x : Binary64} {z : Int} (integer : x.toInt? = some z) :
    x.isFinite = true := by
  obtain ⟨_, _, rfl, _⟩ := toInt?_eq_some.1 integer
  rfl

theorem toInt?_eq_none_iff {x : Binary64} (isFinite : x.isFinite = true) :
    x.toInt? = none ↔ ¬ ∃ z : Int, x.toRat = z := by
  simp only [toRat_eq_intCast_iff isFinite, ← Option.isSome_iff_exists]
  cases x.toInt? <;> simp

/-! ## The other sign -/

theorem ofRatio_not (negative : Bool) (num den : Nat) :
    ofRatio (!negative) num den = (ofRatio negative num den).neg := by
  unfold ofRatio
  split <;> rfl

theorem ofDecimal_not (negative : Bool) (d : Nat) (e : Int) :
    ofDecimal (!negative) d e = (ofDecimal negative d e).neg :=
  ofRatio_not ..

theorem roundSignificant_neg (digits : Nat) (x : Binary64) :
    roundSignificant digits x.neg = (roundSignificant digits x).neg := by
  cases x with
  | nan | infinite _ => rfl
  | finite negative units fits =>
    change roundSignificant digits (finite (!negative) units fits) = _
    by_cases zero : units = 0
    · simp only [roundSignificant, zero, if_true, neg]
    · simp only [roundSignificant, zero, if_false, ofDecimal_not]

theorem isFinite_neg (x : Binary64) : x.neg.isFinite = x.isFinite := by
  cases x <;> rfl

theorem isZero_neg (x : Binary64) : x.neg.isZero = x.isZero := by
  cases x <;> rfl

theorem magnitudeLt_neg_right (x bound : Binary64) :
    x.magnitudeLt bound.neg = x.magnitudeLt bound := by
  cases x <;> cases bound <;> rfl

theorem magnitudeLt_neg (x bound : Binary64) : x.neg.magnitudeLt bound = x.magnitudeLt bound := by
  cases x <;> cases bound <;> rfl

theorem toInt?_neg_eq_map (x : Binary64) : x.neg.toInt? = x.toInt?.map (- ·) := by
  cases x with
  | nan | infinite _ => rfl
  | finite negative units fits =>
    simp only [neg, toInt?]
    split <;> cases negative <;> simp

/-! ## How far rounding to digits goes -/

/-- A number has one leading exponent. -/
theorem eq_of_zpow_bounds {v : ℚ} {e e' : Int} (below : 10 ^ e ≤ v) (above : v < 10 ^ (e + 1))
    (below' : 10 ^ e' ≤ v) (above' : v < 10 ^ (e' + 1)) : e = e' := by
  have ten : (1 : ℚ) < 10 := by norm_num
  have := (zpow_lt_zpow_iff_right₀ ten).1 (below.trans_lt above')
  have := (zpow_lt_zpow_iff_right₀ ten).1 (below'.trans_lt above)
  omega

theorem abs_toRat_sub (negative : Bool) {a b : Nat} (fits : Fits a) (fits' : Fits b) :
    |(finite negative a fits).toRat - (finite negative b fits').toRat| =
      |(a : ℚ) / one - b / one| := by
  cases negative with
  | false => simp [toRat_finite, signedUnits]
  | true =>
    rw [toRat_finite, toRat_finite, ← abs_neg]
    congr 1
    simp only [signedUnits, if_true]
    push_cast
    ring

theorem fits_two_pow_53 : Fits (2 ^ 53) := by
  decide +kernel

section Rounding

variable {k units units' : Nat} {negative negative' : Bool} {fits : Fits units}
  {fits' : Fits units'}

/-- The decimal to which a number is rounded, as a rational number. -/
theorem exists_decimal_near (k : Nat) (negative : Bool) (fits : Fits units) (nonzero : units ≠ 0) :
    ∃ (d : Nat) (p : Int),
      roundSignificant (k + 1) (finite negative units fits) = ofDecimal negative d (-p) ∧
      d ≤ 10 ^ (k + 1) ∧ (units : ℚ) / one ≤ 2 * (d * 10 ^ (-p)) ∧
      |(d : ℚ) * 10 ^ (-p) - units / one| ≤ 1 / 2 * 10 ^ (-p) ∧
      10 ^ ((k : Int) - p) ≤ (units : ℚ) / one ∧ (units : ℚ) / one < 10 ^ ((k : Int) - p + 1) := by
  obtain ⟨d, p, decimal, near, below, above⟩ :=
    @exists_roundSignificant_eq negative units fits k nonzero
  refine ⟨d, p, decimal, le_pow_of_near near above, ?_⟩
  generalize (units : ℚ) / one = v at near below above ⊢
  have ten : (10 : ℚ) ≠ 0 := by norm_num
  have scale : (0 : ℚ) < 10 ^ p := zpow_pos (by norm_num) p
  have unit : (0 : ℚ) < 10 ^ (-p) := zpow_pos (by norm_num) _
  have scaled : v * 10 ^ p * 10 ^ (-p) = v := by
    rw [mul_assoc, ← zpow_add₀ ten, add_neg_cancel, zpow_zero, mul_one]
  refine ⟨?_, ?_, ?_, ?_⟩
  · have one_le : (1 : ℚ) ≤ 10 ^ k := one_le_pow₀ (by norm_num)
    calc v
      _ = v * 10 ^ p * 10 ^ (-p) := scaled.symm
      _ ≤ 2 * d * 10 ^ (-p) := by
        refine mul_le_mul_of_nonneg_right ?_ unit.le
        linarith [(abs_le.1 near).1]
      _ = 2 * (d * 10 ^ (-p)) := mul_assoc ..
  · calc |(d : ℚ) * 10 ^ (-p) - v|
      _ = |(d : ℚ) - v * 10 ^ p| * 10 ^ (-p) := by
        rw [← abs_of_pos unit, ← abs_mul, abs_of_pos unit, sub_mul, scaled]
      _ ≤ 1 / 2 * 10 ^ (-p) := mul_le_mul_of_nonneg_right near unit.le
  · rw [zpow_sub₀ ten, div_le_iff₀ scale, zpow_natCast]
    exact below
  · rw [sub_add_eq_add_sub, zpow_sub₀ ten, lt_div_iff₀ scale, ← Nat.cast_succ, zpow_natCast]
    exact above

/-- The decimal is at most half a unit of its last digit away, and what is read back from it is less
than another half away from the decimal. -/
theorem abs_toRat_roundSignificant_sub_le (fine : k < 15) (large : 2 ^ 54 ≤ units)
    (rounded : roundSignificant (k + 1) (finite negative units fits) =
      finite negative' units' fits') {e : Int}
    (below : 10 ^ e ≤ |(finite negative units fits).toRat|)
    (above : |(finite negative units fits).toRat| < 10 ^ (e + 1)) :
    |(finite negative' units' fits').toRat - (finite negative units fits).toRat| ≤
      10 ^ (e - k) := by
  obtain ⟨d, p, decimal, short, halved, lost, leads, ends⟩ :=
    exists_decimal_near k negative fits (show units ≠ 0 by omega)
  rw [decimal] at rounded
  obtain ⟨rfl, _⟩ := eq_of_eq_ofRatio rounded.symm
  rw [abs_toRat] at below above
  rw [abs_toRat_sub, eq_of_zpow_bounds below above leads ends, sub_sub_cancel_left]
  have unit : (0 : ℚ) < 10 ^ (-p) := zpow_pos (by norm_num) _
  -- The decimal is at least half of the number, so what is read back from it is not tiny.
  have large' : ((2 ^ 53 : Nat) : ℚ) ≤ d * 10 ^ (-p) * one := by
    have doubled : (2 : ℚ) * 2 ^ 53 ≤ units := by exact_mod_cast large
    have := (div_le_iff₀ cast_one_pos).1 halved
    push_cast
    linarith
  have counted := le_of_eq_ofDecimal rounded.symm fits_two_pow_53 large'
  have readBack := abs_sub_le_of_eq_ofDecimal rounded.symm (by omega)
  have regained : (d : ℚ) * 10 ^ (-p) / 2 ^ 53 ≤ 1 / 2 * 10 ^ (-p) := by
    have short' : (d : ℚ) ≤ 10 ^ (k + 1) := by exact_mod_cast short
    rw [mul_div_right_comm]
    refine mul_le_mul_of_nonneg_right ?_ unit.le
    rw [div_le_iff₀ (by norm_num)]
    linarith [pow_digits_le fine]
  calc |(units' : ℚ) / one - units / one|
    _ ≤ |(units' : ℚ) / one - d * 10 ^ (-p)| + |(d : ℚ) * 10 ^ (-p) - units / one| :=
      abs_sub_le ..
    _ ≤ 1 / 2 * 10 ^ (-p) + 1 / 2 * 10 ^ (-p) := add_le_add (readBack.trans regained) lost
    _ = 10 ^ (-p) := by ring

end Rounding

end Reckoner.Binary64
