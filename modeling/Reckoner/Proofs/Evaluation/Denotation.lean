import Reckoner.Proofs.Evaluation.Routing

/-!
# What exact evaluation computes

`Denotes` gives trees their values in the arithmetic of the integers, without a look at evaluation.
Which powers are let through is a parameter, since there are two bounds: `IsNarrow` is about the
width of the power itself, and `WithinEstimate` about the estimate that evaluation goes by, the
width of the base times the exponent.

Exact evaluation computes what a tree denotes if all its powers are within the estimate,
`exact_eq_ok_iff_denotes`. The estimate is never below the width of a power, so that no power is too
wide, `WithinEstimate.isNarrow`, but it can be far above.
-/

namespace Reckoner

-- Powers are those of the core library, whatever else is in scope.
attribute [local instance (high)] instPowNat

/-! ## The arithmetic of the integers -/

/-- What a division leaves: less than the divisor, and nothing or of the sign of the dividend. -/
structure IsRemainder (dividend divisor remainder : Int) : Prop where
  division : ∃ quotient, dividend = quotient * divisor + remainder
  smaller : remainder.natAbs < divisor.natAbs
  sign : remainder = 0 ∨ remainder.sign = dividend.sign

/-- `Denotes admits tree z` says that the value of the tree is `z`, and that every power on the way
to it is one that `admits` lets through. -/
inductive Denotes (admits : Int → Nat → Prop) : Expr → Int → Prop where
  | literal {whole} : Denotes admits (.number (.integer whole)) (Text.Digits.value whole.toList)
  | plus {operand a} : Denotes admits operand a → Denotes admits (.signed .plus operand) a
  | minus {operand a} : Denotes admits operand a → Denotes admits (.signed .minus operand) (-a)
  | add {left right a b} : Denotes admits left a → Denotes admits right b →
      Denotes admits (.binary .add left right) (a + b)
  | sub {left right a b} : Denotes admits left a → Denotes admits right b →
      Denotes admits (.binary .sub left right) (a - b)
  | mul {left right a b} : Denotes admits left a → Denotes admits right b →
      Denotes admits (.binary .mul left right) (a * b)
  | rem {left right a b r} : Denotes admits left a → Denotes admits right b →
      IsRemainder a b r → Denotes admits (.binary .rem left right) r
  | pow {left right a} {e : Nat} : Denotes admits left a → Denotes admits right e →
      admits a e → Denotes admits (.binary .pow left right) (a ^ e)

/-- The power itself is not too wide. -/
def IsNarrow (base : Int) (exponent : Nat) : Prop :=
  bitLength (base ^ exponent).natAbs ≤ maxPowerBits

/-- The power is not too wide by the estimate. -/
def WithinEstimate (base : Int) (exponent : Nat) : Prop :=
  exponent = 0 ∨ bitLength base.natAbs * exponent ≤ maxPowerBits

/-! ## Remainders and powers -/

/-- Division with a remainder of the sign of the dividend is unique. -/
theorem isRemainder_iff {a b r : Int} : IsRemainder a b r ↔ b ≠ 0 ∧ r = a.tmod b := by
  constructor
  · rintro ⟨⟨q, division⟩, smaller, sign⟩
    have nonzero : b ≠ 0 := by
      rintro rfl
      exact absurd smaller (Nat.not_lt_zero _)
    have divided : r + b * q = a := by rw [division, Int.mul_comm q b, Int.add_comm]
    refine ⟨nonzero, ?_⟩
    -- The quotient is unique among the remainders on one side of zero, and the sign tells the side.
    rcases Int.le_total 0 a with nonneg | nonpos
    · have positive : 0 ≤ r := by
        rcases sign with rfl | sign
        · exact Int.le_refl 0
        · exact Int.sign_nonneg_iff.1 (sign ▸ Int.sign_nonneg_iff.2 nonneg)
      exact ((Int.tdiv_tmod_unique nonneg nonzero).2 ⟨divided, positive, by omega⟩).2.symm
    · have negative : r ≤ 0 := by
        rcases sign with rfl | sign
        · exact Int.le_refl 0
        · exact Int.sign_nonpos_iff.1 (sign ▸ Int.sign_nonpos_iff.2 nonpos)
      exact ((Int.tdiv_tmod_unique' nonpos nonzero).2 ⟨divided, by omega, negative⟩).2.symm
  · rintro ⟨nonzero, rfl⟩
    refine ⟨⟨a.tdiv b, (Int.tdiv_mul_add_tmod a b).symm⟩, ?_, ?_⟩
    · rw [Int.natAbs_tmod]
      exact Nat.mod_lt _ (Int.natAbs_pos.2 nonzero)
    · by_cases divides : b ∣ a
      · exact .inl (Int.tmod_eq_zero_of_dvd divides)
      · exact .inr (by rw [Int.sign_tmod, if_neg divides])

theorem truncatedRemainder_eq_ok {a b r : Int} :
    truncatedRemainder a b = .ok r ↔ IsRemainder a b r := by
  rw [isRemainder_iff, truncatedRemainder]
  split
  · simp_all
  · simp_all [eq_comm]

/-- The case for the base zero computes no other power. -/
theorem integerPower_natCast {a r : Int} {e : Nat} :
    integerPower a e = .ok r ↔ WithinEstimate a e ∧ r = a ^ e := by
  have nonneg : ¬ (e : Int) < 0 := by omega
  have nonzero : (e : Int) ≠ 0 ↔ e ≠ 0 := by omega
  simp only [integerPower, nonneg, if_false, Int.toNat_natCast, nonzero]
  by_cases wide : e ≠ 0 ∧ maxPowerBits < bitLength a.natAbs * e
  · rw [if_pos wide]
    constructor
    · intro refused
      cases refused
    · rintro ⟨rfl | within, _⟩
      · exact absurd rfl wide.1
      · exact absurd within (by omega)
  · have within : WithinEstimate a e := by
      unfold WithinEstimate
      omega
    rw [if_neg wide]
    by_cases zero : a = 0 ∧ e ≠ 0
    · obtain ⟨rfl, positive⟩ := zero
      simp [within, positive, Int.zero_pow positive, eq_comm]
    · simp [within, zero, eq_comm]

/-- A power is computed if its exponent is not negative and it is within the estimate. -/
theorem integerPower_eq_ok {a b r : Int} :
    integerPower a b = .ok r ↔ ∃ e : Nat, b = e ∧ WithinEstimate a e ∧ r = a ^ e := by
  cases b with
  | ofNat n =>
    rw [Int.ofNat_eq_natCast, integerPower_natCast]
    constructor
    · exact fun power => ⟨n, rfl, power⟩
    · rintro ⟨e, same, power⟩
      obtain rfl := Int.natCast_inj.1 same
      exact power
  | negSucc n =>
    have negative : Int.negSucc n < 0 := Int.negSucc_lt_zero n
    simp only [integerPower, negative, if_true]
    constructor
    · intro refused
      cases refused
    · rintro ⟨e, same, _⟩
      cases same

/-! ## Widths -/

theorem bitLength_le_iff {n k : Nat} : bitLength n ≤ k ↔ n < 2 ^ k := by
  unfold bitLength
  split
  · rename_i zero
    rw [zero]
    exact iff_of_true (Nat.zero_le k) (Nat.two_pow_pos k)
  · rename_i nonzero
    exact Nat.log2_lt nonzero

/-- The estimate is never below the width of the power. -/
theorem WithinEstimate.isNarrow {a : Int} {e : Nat} (within : WithinEstimate a e) :
    IsNarrow a e := by
  unfold IsNarrow
  rw [bitLength_le_iff, Int.natAbs_pow]
  rcases within with rfl | within
  · exact Nat.one_lt_two_pow (by decide)
  by_cases zero : e = 0
  · subst zero
    exact Nat.one_lt_two_pow (by decide)
  · calc a.natAbs ^ e
      _ < (2 ^ bitLength a.natAbs) ^ e :=
          Nat.pow_lt_pow_left (bitLength_le_iff.1 (Nat.le_refl _)) zero
      _ = 2 ^ (bitLength a.natAbs * e) := (Nat.pow_mul ..).symm
      _ ≤ 2 ^ maxPowerBits := Nat.pow_le_pow_right (by decide) within

/-! ## Trees -/

/-- The value of a tree does not depend on which powers are let through. -/
theorem Denotes.unique {admits admits' : Int → Nat → Prop} {tree : Expr} {z z' : Int}
    (denotes : Denotes admits tree z) (denotes' : Denotes admits' tree z') : z = z' := by
  induction denotes generalizing z' with
  | literal => cases denotes'; rfl
  | plus _ ih => cases denotes' with | plus operand => exact ih operand
  | minus _ ih => cases denotes' with | minus operand => rw [ih operand]
  | add _ _ ihl ihr => cases denotes' with | add left right => rw [ihl left, ihr right]
  | sub _ _ ihl ihr => cases denotes' with | sub left right => rw [ihl left, ihr right]
  | mul _ _ ihl ihr => cases denotes' with | mul left right => rw [ihl left, ihr right]
  -- Only a remainder and a power ask for more than the values of their operands.
  | rem _ _ remainder ihl ihr =>
    cases denotes' with
    | rem left right remainder' =>
      obtain rfl := ihl left
      obtain rfl := ihr right
      rw [(isRemainder_iff.1 remainder).2, (isRemainder_iff.1 remainder').2]
  | pow _ _ _ ihl ihr =>
    cases denotes' with
    | pow left right _ =>
      obtain rfl := ihl left
      obtain rfl := Int.natCast_inj.1 (ihr right)
      rfl

theorem Denotes.mono {admits admits' : Int → Nat → Prop}
    (weaker : ∀ a e, admits a e → admits' a e) {tree : Expr} {z : Int}
    (denotes : Denotes admits tree z) : Denotes admits' tree z := by
  induction denotes with
  | literal => exact .literal
  | plus _ ih => exact .plus ih
  | minus _ ih => exact .minus ih
  | add _ _ ihl ihr => exact .add ihl ihr
  | sub _ _ ihl ihr => exact .sub ihl ihr
  | mul _ _ ihl ihr => exact .mul ihl ihr
  | rem _ _ remainder ihl ihr => exact .rem ihl ihr remainder
  | pow _ _ admitted ihl ihr => exact .pow ihl ihr (weaker _ _ admitted)

/-- No literal of the tree has too many digits to be read. -/
def Expr.ShortLiterals (tree : Expr) : Prop :=
  ∀ whole, Lexeme.number (.integer whole) ∈ tree.inorder →
    whole.toList.length ≤ Text.Digits.maxRun

theorem Expr.shortLiterals_integer {whole : DigitRun} :
    (number (.integer whole)).ShortLiterals ↔ whole.toList.length ≤ Text.Digits.maxRun := by
  simp [ShortLiterals, inorder]

theorem Expr.shortLiterals_signed {sign : Sign} {operand : Expr} :
    (signed sign operand).ShortLiterals ↔ operand.ShortLiterals := by
  simp [ShortLiterals, inorder]

theorem Expr.shortLiterals_binary {o : Op} {left right : Expr} :
    (binary o left right).ShortLiterals ↔ left.ShortLiterals ∧ right.ShortLiterals := by
  simp [ShortLiterals, inorder, or_imp, forall_and]

theorem denotes_of_exact {tree : Expr} {z : Int} (value : tree.exact = .ok z) :
    Denotes WithinEstimate tree z ∧ tree.ShortLiterals := by
  induction tree generalizing z with
  | number numeral =>
    cases numeral with
    | integer whole =>
      simp only [Expr.exact, Numeral.exact] at value
      split at value
      · cases value
      · rename_i short
        cases value
        exact ⟨.literal, Expr.shortLiterals_integer.2 (Nat.le_of_not_lt short)⟩
    | mixed _ _ | fraction _ => cases value
  | signed sign operand ih =>
    obtain ⟨a, valueOperand, rfl⟩ := Expr.exact_signed_eq_ok.1 value
    obtain ⟨denotes, short⟩ := ih valueOperand
    refine ⟨?_, Expr.shortLiterals_signed.2 short⟩
    cases sign with
    | plus => exact .plus denotes
    | minus => exact .minus denotes
  | binary o left right ihl ihr =>
    obtain ⟨a, b, valueLeft, valueRight, valueOp⟩ := Expr.exact_binary_eq_ok.1 value
    obtain ⟨denotesLeft, shortLeft⟩ := ihl valueLeft
    obtain ⟨denotesRight, shortRight⟩ := ihr valueRight
    refine ⟨?_, Expr.shortLiterals_binary.2 ⟨shortLeft, shortRight⟩⟩
    cases o with
    | add => cases valueOp; exact .add denotesLeft denotesRight
    | sub => cases valueOp; exact .sub denotesLeft denotesRight
    | mul => cases valueOp; exact .mul denotesLeft denotesRight
    | rem => exact .rem denotesLeft denotesRight (truncatedRemainder_eq_ok.1 valueOp)
    | pow =>
      obtain ⟨e, rfl, within, rfl⟩ := integerPower_eq_ok.1 valueOp
      exact .pow denotesLeft denotesRight within
    | div | hat => cases valueOp

theorem exact_of_denotes {tree : Expr} {z : Int} (denotes : Denotes WithinEstimate tree z)
    (short : tree.ShortLiterals) : tree.exact = .ok z := by
  induction denotes with
  | literal =>
    have bound := Expr.shortLiterals_integer.1 short
    simp [Expr.exact, Numeral.exact, Nat.not_lt.2 bound]
  | plus _ ih | minus _ ih =>
    exact Expr.exact_signed_eq_ok.2 ⟨_, ih (Expr.shortLiterals_signed.1 short), rfl⟩
  | add _ _ ihl ihr | sub _ _ ihl ihr | mul _ _ ihl ihr =>
    obtain ⟨shortLeft, shortRight⟩ := Expr.shortLiterals_binary.1 short
    exact Expr.exact_binary_eq_ok.2 ⟨_, _, ihl shortLeft, ihr shortRight, rfl⟩
  | rem _ _ remainder ihl ihr =>
    obtain ⟨shortLeft, shortRight⟩ := Expr.shortLiterals_binary.1 short
    have value := truncatedRemainder_eq_ok.2 remainder
    exact Expr.exact_binary_eq_ok.2 ⟨_, _, ihl shortLeft, ihr shortRight, value⟩
  | pow _ _ within ihl ihr =>
    obtain ⟨shortLeft, shortRight⟩ := Expr.shortLiterals_binary.1 short
    have value := integerPower_eq_ok.2 ⟨_, rfl, within, rfl⟩
    exact Expr.exact_binary_eq_ok.2 ⟨_, _, ihl shortLeft, ihr shortRight, value⟩

/-- Exact evaluation computes what a tree denotes, as long as the powers are within the estimate and
the literals can be read. -/
theorem exact_eq_ok_iff_denotes {tree : Expr} {z : Int} :
    tree.exact = .ok z ↔ Denotes WithinEstimate tree z ∧ tree.ShortLiterals := by
  constructor
  · exact denotes_of_exact
  · rintro ⟨denotes, short⟩
    exact exact_of_denotes denotes short

end Reckoner
