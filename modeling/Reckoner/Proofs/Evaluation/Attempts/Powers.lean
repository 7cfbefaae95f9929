import Reckoner.Proofs.Binary64.Rationals
import Reckoner.Proofs.Evaluation.Attempts.Rounded

/-!
# Powers of opposite bases

With an odd exponent, opposite bases have opposite powers, but for an overflow, which is positive
infinity for both, `Primitives.opposite_powers_unless_overflow`.

The power at hand raises an exception for a result that is undefined or infinite, `raisingPower`.
So there are three ways out of it: a number, an overflow and a wrong value, and the two handlers
turn the latter into infinity and into no number. A power that is odd in its base takes the same way
out for both signs, `raisingPower_neg`; only behind the handler of overflows is the sign gone.

The calculator's own power is one that raises, behind the handlers, `handledPower_signedPow`. What
is handled there is `Binary64.signedPow`, whose infinities have a sign.
-/

namespace Reckoner

namespace Binary64

variable {b e x y : Binary64}

/-! ## Signed powers -/

/-- The magnitude of a number with another sign. -/
def withSign (negative : Bool) : Binary64 → Binary64
  | nan => nan
  | infinite _ => infinite negative
  | finite _ units fits => finite negative units fits

theorem withSign_not (negative : Bool) (x : Binary64) :
    withSign (!negative) x = (withSign negative x).neg := by
  cases x <;> rfl

/-- The power before anything is raised: an odd exponent keeps the sign of the base also in an
infinite result. -/
def signedPow (base exponent : Binary64) : Binary64 :=
  match base, exponent with
  | finite .., finite .. =>
    let negative := base.isNegative && exponent.isOdd
    if exponent.isZero then ofInt 1
    else if base.isZero then
      withSign negative (if exponent.isNegative then infinite false else zero false)
    else if base.isNegative && exponent.toInt?.isNone then nan
    else withSign negative (positivePower base.abs exponent)
  | _, _ => base.pow exponent

/-- Opposite numbers have opposite powers if the exponent is odd. -/
def IsOddInBase (power : Binary64 → Binary64 → Binary64) : Prop :=
  ∀ b e, b.isFinite = true → e.isOdd = true → power b.neg e = (power b e).neg

theorem isFinite_of_isOdd (odd : e.isOdd = true) : e.isFinite = true := by
  cases e with
  | nan | infinite _ => cases odd
  | finite _ _ _ => rfl

theorem isSome_toInt?_of_isOdd (odd : e.isOdd = true) : e.toInt?.isSome = true := by
  unfold isOdd at odd
  split at odd
  · simp [*]
  · cases odd

theorem isZero_of_isOdd (odd : e.isOdd = true) : e.isZero = false := by
  cases zero : e.isZero with
  | false => rfl
  | true =>
    cases e with
    | nan | infinite _ => cases zero
    | finite negative units fits =>
      obtain rfl : units = 0 := eq_of_beq zero
      cases negative <;> simp [isOdd, toInt?] at odd

theorem abs_neg (x : Binary64) : x.neg.abs = x.abs := by
  cases x <;> rfl

theorem isNegative_neg (finite : x.isFinite = true) : x.neg.isNegative = !x.isNegative := by
  cases x with
  | nan | infinite _ => cases finite
  | finite _ _ _ => rfl

/-- With an odd exponent the sign of the base is nowhere but in the sign of the result. -/
theorem signedPow_of_isOdd (finite : b.isFinite = true) (odd : e.isOdd = true) :
    signedPow b e = withSign b.isNegative
      (if b.isZero then if e.isNegative then infinite false else zero false
        else positivePower b.abs e) := by
  have nonzero := isZero_of_isOdd odd
  have whole : e.toInt?.isNone = false := by simp [← Option.not_isSome, isSome_toInt?_of_isOdd odd]
  cases b with
  | nan | infinite _ => cases finite
  | finite _ _ _ =>
    cases e with
    | nan | infinite _ => cases odd
    | finite _ _ _ =>
      simp only [signedPow, nonzero, odd, whole, Bool.and_true, Bool.and_false, Bool.false_eq_true,
        if_false]
      split <;> rfl

theorem signedPow_isOddInBase : IsOddInBase signedPow := by
  intro b e finite odd
  have finite' : b.neg.isFinite = true := by rwa [isFinite_neg]
  rw [signedPow_of_isOdd finite odd, signedPow_of_isOdd finite' odd, isNegative_neg finite,
    isZero_neg, abs_neg, withSign_not]

end Binary64

namespace Primitives

variable {p : Primitives} {power : Binary64 → Binary64 → Binary64} {b e x y : Binary64}

open Binary64 (IsOddInBase signedPow)

/-! ## Powers that raise -/

/-- A power that raises an exception where finite numbers have none: a wrong value if the result is
undefined or the base is a pole, and an overflow if the result is too large. -/
def raisingPower (power : Binary64 → Binary64 → Binary64) (x y : Binary64) : Attempt Binary64 :=
  if x.isFinite && y.isFinite then
    match power x y with
    | .nan => .error .value
    | .infinite _ => .error (if x.isZero then .value else .overflow)
    | z => .ok z
  else .ok (power x y)

/-- Opposite bases take the same way out. -/
theorem raisingPower_neg (odd : IsOddInBase power) (finite : b.isFinite = true)
    (isOdd : e.isOdd = true) :
    raisingPower power b.neg e = (raisingPower power b e).map Binary64.neg := by
  unfold raisingPower
  rw [odd b e finite isOdd, Binary64.isFinite_neg, Binary64.isZero_neg, finite,
    Binary64.isFinite_of_isOdd isOdd]
  cases power b e <;> rfl

theorem raised_of_raisingPower {raised : Raised}
    (refused : raisingPower power x y = .error raised) : raised = .overflow ∨ raised = .value := by
  unfold raisingPower at refused
  split at refused
  · split at refused
    · simp_all
    · split at refused <;> simp_all
    · cases refused
  · cases refused

theorem handledPower_of_overflow (overflow : p.power x y = .error .overflow) :
    p.handledPower x y = .ok (.infinite false) := by
  simp [handledPower, overflow]

theorem handledPower_neg (raises : p.power = raisingPower power) (odd : IsOddInBase power)
    (finite : b.isFinite = true) (isOdd : e.isOdd = true)
    (bounded : p.power b e ≠ .error .overflow) :
    p.handledPower b.neg e = (p.handledPower b e).map Binary64.neg := by
  have opposite := raisingPower_neg odd finite isOdd
  rw [← raises] at opposite
  unfold handledPower
  rw [opposite]
  cases way : p.power b e with
  | ok z => rfl
  | error raised =>
    rw [raises] at way
    cases raised_of_raisingPower way with
    | inl overflow => simp_all
    | inr wrong => simp [wrong, Except.map, Raised.isWrongValue, Binary64.neg]

theorem exists_handledPower_of_raises (raises : p.power = raisingPower power) (x y : Binary64) :
    ∃ z, p.handledPower x y = .ok z := by
  unfold handledPower
  rw [raises]
  cases way : raisingPower power x y with
  | ok z => exact ⟨z, rfl⟩
  | error raised =>
    cases raised_of_raisingPower way with
    | inl overflow => exact ⟨.infinite false, by simp [overflow]⟩
    | inr wrong => exact ⟨.nan, by simp [wrong, Raised.isWrongValue]⟩

/-- The calculator's own power is the signed one, with what it raises handled. -/
theorem handledPower_signedPow (raises : p.power = raisingPower signedPow) (x y : Binary64) :
    p.handledPower x y = .ok (x.pow y) := by
  unfold handledPower
  rw [raises]
  cases x with
  | nan | infinite _ => cases y <;> rfl
  | finite s a fits =>
    cases y with
    | nan | infinite _ => rfl
    | finite t c fits' =>
      -- What is raised follows the cases of `finitePower`.
      simp only [raisingPower, Binary64.isFinite, Bool.and_self, if_true, signedPow, Binary64.pow,
        Binary64.finitePower]
      by_cases trivial : (Binary64.finite t c fits').isZero = true
      · obtain ⟨negative, one, same, _⟩ :=
          Binary64.toInt?_eq_some.1 (Binary64.toInt?_ofInt (z := 1) (by decide))
        simp [trivial, same]
      by_cases vanishes : (Binary64.finite s a fits).isZero = true
      · cases pole : (Binary64.finite t c fits').isNegative <;>
          simp [trivial, vanishes, Binary64.withSign, Binary64.zero, Raised.isWrongValue]
      by_cases broken : ((Binary64.finite s a fits).isNegative &&
          (Binary64.finite t c fits').toInt?.isNone) = true
      · simp [trivial, vanishes, broken, Raised.isWrongValue]
      · cases Binary64.positivePower (Binary64.finite s a fits).abs (.finite t c fits') <;>
          simp [trivial, vanishes, broken, Binary64.withSign, Raised.isWrongValue]

theorem bounded_of_handledPower (raises : p.power = raisingPower power)
    (finite : b.isFinite = true) (isOdd : e.isOdd = true) (bounded : p.power b e ≠ .error .overflow)
    {z : Binary64} (handled : p.handledPower b e = .ok z) : z.isInfinite = false := by
  unfold handledPower at handled
  rw [raises] at handled bounded
  cases way : raisingPower power b e with
  | ok z' =>
    simp only [way, Except.ok.injEq] at handled
    subst handled
    simp only [raisingPower, finite, Binary64.isFinite_of_isOdd isOdd, Bool.and_self, if_true]
      at way
    split at way <;> simp_all [Binary64.isInfinite]
  | error raised =>
    cases raised_of_raisingPower way with
    | inl overflow => simp_all
    | inr wrong =>
      simp [way, wrong, Raised.isWrongValue] at handled
      subst handled
      rfl

/-! ## Main result -/

/-- Two powers are opposite, unless they overflow; then both are positive infinity. -/
def OppositeUnless (overflow : Prop) (z z' : Binary64) : Prop :=
  (¬overflow → z' = z.neg) ∧ (overflow → z = .infinite false ∧ z' = .infinite false)

theorem exists_oppositeUnless (odd : IsOddInBase power) (raises : p.power = raisingPower power)
    (finite : b.isFinite = true) (isOdd : e.isOdd = true) :
    ∃ z z', p.handledPower b e = .ok z ∧ p.handledPower b.neg e = .ok z' ∧
      OppositeUnless (p.power b e = .error .overflow) z z' := by
  by_cases overflow : p.power b e = .error .overflow
  · have overflow' : p.power b.neg e = .error .overflow := by
      rw [raises, raisingPower_neg odd finite isOdd, ← raises, overflow]
      rfl
    exact ⟨_, _, handledPower_of_overflow overflow, handledPower_of_overflow overflow',
      absurd overflow, fun _ => ⟨rfl, rfl⟩⟩
  · obtain ⟨z, handled⟩ := exists_handledPower_of_raises raises b e
    have opposite := handledPower_neg raises odd finite isOdd overflow
    rw [handled] at opposite
    exact ⟨z, z.neg, handled, opposite, fun _ => rfl, fun raised => absurd raised overflow⟩

/-- Of a finite base and an odd exponent, the power of the opposite base is the opposite power, an
undefined one counting as its own opposite. An overflow is the exception: it is positive infinity
for either sign of the base. So it is for every power that is odd in its base before anything is
raised, and for the calculator's own. -/
theorem opposite_powers_unless_overflow (odd : IsOddInBase power)
    (raises : p.power = raisingPower power) (finite : b.isFinite = true) (isOdd : e.isOdd = true) :
    (∃ z z', p.handledPower b e = .ok z ∧ p.handledPower b.neg e = .ok z' ∧
      OppositeUnless (p.power b e = .error .overflow) z z') ∧
    OppositeUnless ((b.pow e).isInfinite = true) (b.pow e) (b.neg.pow e) := by
  refine ⟨exists_oppositeUnless odd raises finite isOdd, ?_⟩
  let own : Primitives := { standard with power := raisingPower signedPow }
  have handles := @handledPower_signedPow own rfl
  obtain ⟨z, z', handled, handled', opposite, overflows⟩ :=
    @exists_oppositeUnless own _ b e Binary64.signedPow_isOddInBase rfl finite isOdd
  rw [handles] at handled handled'
  cases handled
  cases handled'
  by_cases overflow : own.power b e = .error .overflow
  · obtain ⟨infinite, infinite'⟩ := overflows overflow
    exact ⟨fun bounded => absurd (by rw [infinite]; rfl) bounded, fun _ => ⟨infinite, infinite'⟩⟩
  · have bounded := bounded_of_handledPower rfl finite isOdd overflow (handles b e)
    exact ⟨fun _ => opposite overflow, fun infinite => by cases bounded.symm.trans infinite⟩

/-- The fifth powers of three and minus three are opposite; two and minus two to the power of 1025
overflow. -/
theorem opposite_powers_unless_overflow_of_two_and_three :
    let p : Primitives := { standard with power := raisingPower signedPow }
    let two := Binary64.ofInt 2
    let three := Binary64.ofInt 3
    IsOddInBase signedPow ∧ p.power = raisingPower signedPow ∧
    (three.isFinite = true ∧ (Binary64.ofInt 5).isOdd = true ∧
      three.neg.pow (.ofInt 5) = (Binary64.ofInt 243).neg) ∧
    (two.isFinite = true ∧ (Binary64.ofInt 1025).isOdd = true ∧
      two.neg.pow (.ofInt 1025) = .infinite false) := by
  intro p two three
  have odd := Binary64.signedPow_isOddInBase
  have finite : three.isFinite = true ∧ two.isFinite = true := by decide +kernel
  have isOdd : (Binary64.ofInt 5).isOdd = true ∧ (Binary64.ofInt 1025).isOdd = true := by
    decide +kernel
  have power : three.pow (.ofInt 5) = .ofInt 243 := by decide +kernel
  have overflow : (two.pow (.ofInt 1025)).isInfinite = true := by decide +kernel
  obtain ⟨_, opposite, _⟩ :=
    @opposite_powers_unless_overflow p signedPow three (.ofInt 5) odd rfl finite.1 isOdd.1
  obtain ⟨_, _, infinite⟩ :=
    @opposite_powers_unless_overflow p signedPow two (.ofInt 1025) odd rfl finite.2 isOdd.2
  rw [power] at opposite
  exact ⟨odd, rfl, ⟨finite.1, isOdd.1, opposite (by decide +kernel)⟩, finite.2, isOdd.2,
    (infinite overflow).2⟩

/-- Two and minus two have the same power, so an expression that goes on with it is given a value:
with the right sign its exponent would be plus infinity, and its result infinite. -/
theorem overflow_of_opposite_bases :
    (Binary64.ofInt 2).isFinite = true ∧ (Binary64.ofInt 1025).isOdd = true ∧
    (Binary64.ofInt 2).pow (.ofInt 1025) = .infinite false ∧
    (Binary64.ofInt 2).neg.pow (.ofInt 1025) = .infinite false ∧
    (Binary64.ofInt 2).neg.pow (.ofInt 1025) ≠ ((Binary64.ofInt 2).pow (.ofInt 1025)).neg ∧
    (Binary64.ofInt 2).neg.signedPow (.ofInt 1025) = .infinite true ∧
    (Calculator.ofLimit none).evaluate (.str "2 ^ (0 - (-2) ^ 1025)") = .ok (.integer 0) := by
  decide +kernel

end Primitives

end Reckoner
