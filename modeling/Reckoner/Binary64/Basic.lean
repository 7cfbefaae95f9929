/-!
# Binary64 numbers

The floating-point numbers of 64 bits, as exact values. A finite one is a sign and a count of
units of `2 ^ (-1074)`, the least positive number of the format. Not every count occurs:

* the count has at most 53 significant binary digits,
* it stays below `2 ^ 2098`, so the number stays below `2 ^ 1024`.

`Binary64.ofRatio` gives the number nearest to an exact quotient, and every operation of the format
is an exact operation followed by it. Main facts: `fits_nearest`, that a rounded count occurs, and
`nearest_of_fits`, that a count which occurs is not changed.
-/

namespace Reckoner

-- Powers are those of the core library, whatever else is in scope.
attribute [local instance (high)] instPowNat

/-! ## Rounding to the nearest integer -/

/-- The integer nearest to a quotient. A quotient halfway between two goes to the even one. -/
def roundDiv (num den : Nat) : Nat :=
  let floor := num / den
  let rest := num % den
  if 2 * rest < den then floor
  else if den < 2 * rest then floor + 1
  else if floor % 2 = 0 then floor
  else floor + 1

theorem le_roundDiv (num den : Nat) : num / den ≤ roundDiv num den := by
  simp only [roundDiv]
  repeat' split
  all_goals omega

theorem roundDiv_le (num den : Nat) : roundDiv num den ≤ num / den + 1 := by
  simp only [roundDiv]
  repeat' split
  all_goals omega

theorem roundDiv_of_dvd {num den : Nat} (hpos : 0 < den) (h : den ∣ num) :
    roundDiv num den = num / den := by
  have : num % den = 0 := Nat.mod_eq_zero_of_dvd h
  simp [roundDiv, this, hpos]

namespace Binary64

/-! ## The grid -/

/-- The binary digits of a unit behind the point. -/
def unitPlaces : Nat := 1074

/-- The binary digits of a number before the point. -/
def wholePlaces : Nat := 1024

/-- The units in one. -/
def one : Nat := 2 ^ unitPlaces

/-- The first count of units that is too large. -/
def limit : Nat := 2 ^ (wholePlaces + unitPlaces)

/-- The distance of the numbers of the format around a count of units: counts of 53 binary digits
or fewer are all there, and each further digit doubles the distance. -/
def step (units : Nat) : Nat :=
  2 ^ (units.log2 - 52)

/-- The counts of units that occur. -/
def Fits (units : Nat) : Prop :=
  units < limit ∧ step units ∣ units

instance (units : Nat) : Decidable (Fits units) :=
  inferInstanceAs (Decidable (_ ∧ _))

/-- The multiple of the local distance that is nearest to a quotient. -/
def nearest (num den : Nat) : Nat :=
  let d := step (num / den)
  roundDiv num (den * d) * d

theorem step_pos (units : Nat) : 0 < step units :=
  Nat.two_pow_pos _

/-- Every count lies below the 53-digit range of its distance. -/
theorem lt_step (units : Nat) : units < 2 ^ (53 : Nat) * step units := by
  unfold step
  have h := Nat.lt_log2_self (n := units)
  rw [← Nat.pow_add]
  exact Nat.lt_of_lt_of_le h (Nat.pow_le_pow_right (by decide) (by omega))

/-- A multiple of a distance by at most 53 digits is on the grid. -/
theorem step_dvd_of_le {k s : Nat} (h : k ≤ 2 ^ (53 : Nat)) : step (k * 2 ^ s) ∣ k * 2 ^ s := by
  unfold step
  by_cases hk : k = 2 ^ (53 : Nat)
  · subst hk
    rw [← Nat.pow_add, Nat.log2_two_pow]
    exact Nat.pow_dvd_pow 2 (by omega)
  · refine Nat.dvd_trans (Nat.pow_dvd_pow 2 (n := s) ?_) (Nat.dvd_mul_left _ _)
    by_cases h0 : k * 2 ^ s = 0
    · rw [h0]; simp
    · have hlt : k * 2 ^ s < 2 ^ (53 + s) := by
        rw [Nat.pow_add]
        exact Nat.mul_lt_mul_of_pos_right (by omega) (Nat.two_pow_pos s)
      have := (Nat.log2_lt h0).2 hlt
      omega

/-- A rounded count is on the grid. -/
theorem step_dvd_nearest (num den : Nat) : step (nearest num den) ∣ nearest num den := by
  unfold nearest
  refine step_dvd_of_le (s := (num / den).log2 - 52) ?_
  refine Nat.le_trans (roundDiv_le _ _) ?_
  have h : num / (den * step (num / den)) < 2 ^ (53 : Nat) := by
    rw [← Nat.div_div_eq_div_mul, Nat.div_lt_iff_lt_mul (step_pos _)]
    exact lt_step _
  exact h

theorem fits_nearest {num den : Nat} (h : nearest num den < limit) : Fits (nearest num den) :=
  ⟨h, step_dvd_nearest num den⟩

theorem nearest_of_fits {units : Nat} (h : Fits units) : nearest units 1 = units := by
  simp only [nearest, Nat.div_one, Nat.one_mul]
  rw [roundDiv_of_dvd (step_pos _) h.2, Nat.div_mul_cancel h.2]

theorem lt_two_pow_of_le {n a b : Nat} (h : n < 2 ^ a) (hab : a ≤ b) : n < 2 ^ b :=
  Nat.lt_of_lt_of_le h (Nat.pow_le_pow_right Nat.two_pos hab)

theorem fits_of_lt {units : Nat} (h : units < 2 ^ (53 : Nat)) : Fits units := by
  refine ⟨?_, ?_⟩
  · exact lt_two_pow_of_le h (by decide)
  · simpa using step_dvd_of_le (k := units) (s := 0) (Nat.le_of_lt h)

end Binary64

/-! ## The numbers -/

inductive Binary64 where
  /-- The result of an operation that has none. -/
  | nan
  | infinite (negative : Bool)
  | finite (negative : Bool) (units : Nat) (fits : Binary64.Fits units)
  deriving DecidableEq

namespace Binary64

def zero (negative : Bool) : Binary64 :=
  .finite negative 0 (fits_of_lt (by decide))

/-- The number of a sign that is nearest to a quotient of units; an infinity if that is beyond the
format. -/
def ofRatio (negative : Bool) (num den : Nat) : Binary64 :=
  if h : nearest num den < limit then .finite negative (nearest num den) (fits_nearest h)
  else .infinite negative

theorem ofRatio_of_fits {negative : Bool} {units : Nat} (h : Fits units) :
    ofRatio negative units 1 = .finite negative units h := by
  simp only [ofRatio, nearest_of_fits h, h.1, ↓reduceDIte]

/-- The number nearest to an integer. -/
def ofInt (z : Int) : Binary64 :=
  ofRatio (z < 0) (z.natAbs * one) 1

/-! ## Inspection -/

def isNan : Binary64 → Bool
  | nan => true
  | _ => false

def isFinite : Binary64 → Bool
  | finite .. => true
  | _ => false

def isZero : Binary64 → Bool
  | finite _ units _ => units == 0
  | _ => false

/-- The sign of a number; that of the undefined one counts as positive. -/
def isNegative : Binary64 → Bool
  | nan => false
  | infinite negative | finite negative _ _ => negative

/-- The count of units of a finite number, without its sign. -/
def units? : Binary64 → Option Nat
  | finite _ units _ => some units
  | _ => none

def toInt? : Binary64 → Option Int
  | finite negative units _ =>
    if units % one = 0 then
      some (if negative then -(units / one : Nat) else (units / one : Nat))
    else none
  | _ => none

/-- Whether a number lies strictly below a bound in magnitude. -/
def magnitudeLt (x bound : Binary64) : Bool :=
  match x, bound with
  | finite _ a _, finite _ b _ => a < b
  | finite .., infinite _ => true
  | _, _ => false

end Binary64

end Reckoner
