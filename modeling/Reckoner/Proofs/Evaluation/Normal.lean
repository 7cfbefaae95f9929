import Reckoner.Evaluation.Rounded
import Reckoner.Proofs.Binary64.Significant

/-!
# Removing noise

What `normalize` does to a number, by kinds of numbers:

* an integer keeps its value, `normalize_of_toInt?`,
* a small number that is no integer is left alone, `normalize_of_small`,
* any other number is rounded, `normalize_of_broken`; the rounded number can be an integer, but only
  a safe one, `isSafe_of_roundSignificant`,
* a number that is not finite is left alone, and no other number becomes unbounded,
  `isUnbounded_normalize`.

The bounds of `normalize` are numbers of the format, and all that matters of them is that they are
in order: the tiny ones end below those written with a power of ten, and these below one.
-/

namespace Reckoner

open Binary64

-- Powers are those of the core library, whatever else is in scope.
attribute [local instance (high)] instPowNat

-- No proof should compute this power.
attribute [local irreducible] one

/-! ## Bounds -/

namespace Binary64

theorem magnitudeLt_finite {s t : Bool} {a b : Nat} {fits : Fits a} {fits' : Fits b} :
    (finite s a fits).magnitudeLt (finite t b fits') = decide (a < b) :=
  rfl

theorem magnitudeLt_trans {x y z : Binary64} (below : x.magnitudeLt y = true)
    (below' : y.magnitudeLt z = true) : x.magnitudeLt z = true := by
  cases x <;> cases y <;> cases z <;> simp_all [magnitudeLt]
  omega

variable {negative : Bool} {units : Nat} {fits : Fits units}

/-- A magnitude below one leaves no whole units. -/
theorem lt_one_of_exponentForm
    (below : (finite negative units fits).magnitudeLt exponentFormBelow = true) : units < one := by
  have bound : exponentFormBelow.magnitudeLt (ofInt 1) = true := by decide +kernel
  have whole : ofInt 1 = finite false (1 * one) (fits_whole (by decide)) :=
    ofRatio_of_fits (fits_whole (by decide))
  have below := magnitudeLt_trans below bound
  rw [whole, magnitudeLt_finite, Nat.one_mul] at below
  exact of_decide_eq_true below

/-- The numbers from the bound on are far from the least ones. -/
theorem lt_units_of_not_exponentForm
    (above : (finite negative units fits).magnitudeLt exponentFormBelow = false) :
    2 ^ 54 < units := by
  have bound :
      (finite false (2 ^ 54) (by decide +kernel)).magnitudeLt exponentFormBelow = true := by
    decide +kernel
  by_contra small
  cases exponent : exponentFormBelow with
  | nan =>
    rw [exponent] at bound
    cases bound
  | infinite _ =>
    rw [exponent] at above
    cases above
  | finite _ limit _ =>
    rw [exponent, magnitudeLt_finite] at bound above
    have := of_decide_eq_true bound
    have := of_decide_eq_false above
    omega

theorem exponentForm_of_tiny {x : Binary64} (tiny : x.magnitudeLt tinyMagnitude = true) :
    x.magnitudeLt exponentFormBelow = true :=
  magnitudeLt_trans tiny (by decide +kernel)

/-- A small number is no integer but zero. -/
theorem eq_zero_of_exponentForm {x : Binary64} {z : Int} (integer : x.toInt? = some z)
    (below : x.magnitudeLt exponentFormBelow = true) : z = 0 := by
  obtain ⟨s, fits, rfl, _⟩ := toInt?_eq_some.1 integer
  have small := lt_one_of_exponentForm below
  by_contra nonzero
  have := Nat.le_mul_of_pos_left one (Int.natAbs_pos.2 nonzero)
  omega

end Binary64

/-! ## Integers -/

/-- An integer becomes one if it is safe. -/
theorem normalize_of_toInt? {x : Binary64} {z : Int} (integer : x.toInt? = some z) :
    normalize x = if isSafe z then .integer z else .float x := by
  have finite : x.isFinite = true := by
    obtain ⟨_, _, rfl, _⟩ := toInt?_eq_some.1 integer
    rfl
  have ordinary : (!x.isZero && x.magnitudeLt tinyMagnitude) = false := by
    rw [isZero_of_toInt? integer]
    by_contra tiny
    simp only [Bool.not_eq_false, Bool.and_eq_true, Bool.not_eq_true', decide_eq_false_iff_not]
      at tiny
    exact tiny.1 (eq_zero_of_exponentForm integer (exponentForm_of_tiny tiny.2))
  simp [normalize, finite, ordinary, integer, Value.ofBinary64]

/-! ## Other numbers -/

section Broken

variable {x : Binary64} (finite : x.isFinite = true) (broken : x.toInt? = none)

include finite broken

theorem normalize_of_small (small : x.magnitudeLt exponentFormBelow = true) :
    normalize x = .float x := by
  simp [normalize, finite, broken, small]

theorem normalize_of_broken (large : x.magnitudeLt exponentFormBelow = false) :
    normalize x = .ofBinary64 (x.roundSignificant significantDigits) := by
  have ordinary : x.magnitudeLt tinyMagnitude = false := by
    by_contra tiny
    rw [exponentForm_of_tiny (Bool.not_eq_false _ ▸ tiny)] at large
    cases large
  simp [normalize, finite, broken, large, ordinary]

/-- A rounded number is finite, and no integer beyond the safe range. -/
theorem exists_roundSignificant_eq_finite :
    ∃ negative units fits, x.roundSignificant significantDigits = .finite negative units fits ∧
      units ≤ maxSafeInteger * one := by
  cases x with
  | nan | infinite _ => cases finite
  | finite negative units fits =>
    have nonzero : units ≠ 0 := by
      rintro rfl
      simp [toInt?] at broken
    obtain ⟨units', fits', rounded, bound⟩ := roundSignificant_le 14 negative fits nonzero
      (units_lt_of_toInt?_eq_none broken).le
    exact ⟨negative, units', fits', rounded, bound⟩

theorem isSafe_of_roundSignificant {z : Int}
    (integer : (x.roundSignificant significantDigits).toInt? = some z) : isSafe z = true := by
  obtain ⟨negative, units, fits, rounded, bound⟩ := exists_roundSignificant_eq_finite finite broken
  rw [rounded] at integer
  obtain ⟨_, _, same, _⟩ := toInt?_eq_some.1 integer
  cases same
  exact decide_eq_true (Nat.le_of_mul_le_mul_right bound one_pos)

end Broken

/-! ## Unbounded numbers -/

theorem isUnbounded_ofBinary64 (x : Binary64) (finite : x.isFinite = true) :
    (Value.ofBinary64 x).isUnbounded = false := by
  unfold Value.ofBinary64
  split
  · split
    · rfl
    · simp [Value.isUnbounded, finite]
  · simp [Value.isUnbounded, finite]

/-- Removing noise makes nothing unbounded. -/
theorem isUnbounded_normalize (x : Binary64) : (normalize x).isUnbounded = !x.isFinite := by
  cases finite : x.isFinite with
  | false => simp [normalize, finite, Value.isUnbounded]
  | true =>
    cases integer : x.toInt? with
    | some z =>
      rw [normalize_of_toInt? integer]
      split <;> simp [Value.isUnbounded, finite]
    | none =>
      cases small : x.magnitudeLt exponentFormBelow with
      | true => simp [normalize_of_small finite integer small, Value.isUnbounded, finite]
      | false =>
        obtain ⟨negative, units, fits, rounded, _⟩ :=
          exists_roundSignificant_eq_finite finite integer
        rw [normalize_of_broken finite integer small, rounded]
        exact isUnbounded_ofBinary64 _ rfl

end Reckoner
