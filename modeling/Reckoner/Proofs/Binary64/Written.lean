import Mathlib.Data.List.TakeWhile
import Reckoner.Json.Reader
import Reckoner.Proofs.Binary64.Shortest
import Reckoner.Proofs.Expr.Numerals
import Reckoner.Proofs.Text.Decimal

/-!
# Written numbers

What is written for a finite number is read as that number again, `Json.number?_chars`, as long as
nothing follows that would belong to it, `Json.Closes`. The digits are the shortest decimal without
the zeros at its end. In positional notation these zeros, or others, come back,
`NumberFormat.positional_eq`. In the other notation the power of ten is small enough to count,
`leading_bounds`.
-/

namespace Reckoner

open Text (Digit Digits.chars)
open Text.Digits (split value ofNat IsCanonical)

-- Powers are those of the core library, whatever else is in scope.
attribute [local instance (high)] instPowNat

/-! ## Digits -/

namespace Text.Digits

theorem value_append (ds behind : List Digit) :
    value (ds ++ behind) = value ds * 10 ^ behind.length + value behind := by
  obtain ⟨reversed, rfl⟩ : ∃ reversed, behind = reversed.reverse := ⟨behind.reverse, by simp⟩
  induction reversed with
  | nil => simp [value]
  | cons d reversed ih =>
    rw [List.reverse_cons, ← List.append_assoc, value_append_singleton, value_append_singleton, ih,
      List.length_append, List.length_singleton, Nat.pow_succ]
    ring

@[simp] theorem value_replicate_zero (k : Nat) : value (List.replicate k 0) = 0 := by
  induction k with
  | zero => rfl
  | succ k ih => rw [List.replicate_succ', value_append_singleton, ih]; rfl

theorem chars_append (ds behind : List Digit) : chars (ds ++ behind) = chars ds ++ chars behind :=
  List.map_append

theorem chars_replicate_zero (k : Nat) : chars (List.replicate k 0) = List.replicate k '0' :=
  List.map_replicate

theorem isCanonical_of_head {ds : List Digit} (nonempty : ds ≠ []) (lead : ds.head? ≠ some 0) :
    IsCanonical ds :=
  ⟨nonempty, fun zero => absurd zero lead⟩

/-- A positive number has as many digits as its powers of ten say. -/
theorem pow_length_ofNat_le {n : Nat} (positive : 0 < n) :
    10 ^ ((ofNat n).length - 1) ≤ n := by
  by_cases single : (ofNat n).length - 1 = 0
  · rw [single]
    exact positive
  · have longer := mt (length_ofNat_le_iff (n := n) (Nat.pos_of_ne_zero single)).2 (by omega)
    exact Nat.not_lt.1 longer

end Text.Digits

open Text.Digits (value_append value_replicate_zero chars_append chars_replicate_zero)

namespace NumberFormat

theorem exists_dropZeros (ds : List Digit) : ∃ k, ds = dropZeros ds ++ List.replicate k 0 := by
  have zeros : ds.reverse.takeWhile (· == 0) =
      List.replicate (ds.reverse.takeWhile (· == 0)).length 0 := by
    refine List.eq_replicate_iff.2 ⟨rfl, fun d member => ?_⟩
    simpa using List.mem_takeWhile_imp member
  refine ⟨(ds.reverse.takeWhile (· == 0)).length, ?_⟩
  calc ds
    _ = (ds.reverse.takeWhile (· == 0) ++ ds.reverse.dropWhile (· == 0)).reverse := by simp
    _ = dropZeros ds ++ List.replicate (ds.reverse.takeWhile (· == 0)).length 0 := by
      rw [List.reverse_append, zeros, List.reverse_replicate, List.length_replicate]
      rfl

theorem head_dropZeros {ds : List Digit} (nonempty : ds ≠ []) (lead : ds.head? ≠ some 0) :
    dropZeros ds ≠ [] ∧ (dropZeros ds).head? ≠ some 0 := by
  obtain ⟨k, split⟩ := exists_dropZeros ds
  cases kept : dropZeros ds with
  | nil =>
    rw [kept, List.nil_append] at split
    cases k with
    | zero => exact absurd split nonempty
    | succ k => exact absurd (by rw [split]; rfl) lead
  | cons d others =>
    rw [kept] at split
    exact ⟨by simp, by simpa [split] using lead⟩

/-- The zeros at the end of a coefficient only move the power of ten. -/
theorem dropZeros_ofNat {c : Nat} (positive : 0 < c) (e : Int) :
    dropZeros (ofNat c) ≠ [] ∧ (dropZeros (ofNat c)).head? ≠ some 0 ∧
      (value (dropZeros (ofNat c)) : ℚ) *
        10 ^ (e + (ofNat c).length - 1 + 1 - (dropZeros (ofNat c)).length) = c * 10 ^ e := by
  have canonical := Text.Digits.isCanonical_ofNat c
  have lead : (ofNat c).head? ≠ some 0 := by
    intro zero
    have vanishes := Text.Digits.value_ofNat c
    rw [canonical.lead zero] at vanishes
    exact Nat.ne_of_gt positive vanishes.symm
  obtain ⟨kept, keptLead⟩ := head_dropZeros canonical.nonempty lead
  refine ⟨kept, keptLead, ?_⟩
  obtain ⟨k, split⟩ := exists_dropZeros (ofNat c)
  have digits : (c : ℚ) = value (dropZeros (ofNat c)) * 10 ^ k := by
    have := Text.Digits.value_ofNat c
    rw [split, value_append, value_replicate_zero, List.length_replicate, Nat.add_zero] at this
    exact_mod_cast this.symm
  have count : ((ofNat c).length : Int) = (dropZeros (ofNat c)).length + k := by
    have := congrArg List.length split
    simpa using congrArg Int.ofNat this
  have shift : e + (ofNat c).length - 1 + 1 - (dropZeros (ofNat c)).length = (k : Int) + e := by
    omega
  rw [shift, zpow_add₀ (by norm_num), zpow_natCast, ← mul_assoc, ← digits]

/-- In positional notation there are digits on both sides of a point, and they have the value that
is written. -/
theorem positional_eq {ds : List Digit} (nonempty : ds ≠ []) (lead : ds.head? ≠ some 0)
    (exponent : Int) :
    ∃ whole behind, positional ds exponent = Digits.chars whole ++ '.' :: Digits.chars behind ∧
      IsCanonical whole ∧ behind ≠ [] ∧
      (value (whole ++ behind) : ℚ) * 10 ^ (-(behind.length : Int)) =
        value ds * 10 ^ (exponent + 1 - ds.length) := by
  have ten : (10 : ℚ) ≠ 0 := by norm_num
  by_cases small : exponent < 0
  · refine ⟨[0], List.replicate (-exponent - 1).toNat 0 ++ ds, ?_, ⟨by simp, fun _ => rfl⟩,
      by simp [nonempty], ?_⟩
    · simp only [positional, small, if_true, chars_append, chars_replicate_zero]
      rfl
    · have digits : value ([0] ++ (List.replicate (-exponent - 1).toNat 0 ++ ds)) = value ds := by
        have zero : value [0] = 0 := rfl
        rw [value_append, value_append, value_replicate_zero, zero]
        omega
      rw [digits, List.length_append, List.length_replicate]
      congr 2
      omega
  · by_cases long : exponent.toNat + 1 < ds.length
    · refine ⟨ds.take (exponent.toNat + 1), ds.drop (exponent.toNat + 1), ?_, ?_, ?_, ?_⟩
      · have inside : (ds.take (exponent.toNat + 1)).length = exponent.toNat + 1 := by
          rw [List.length_take]
          omega
        have behind : (ds.drop (exponent.toNat + 1)).isEmpty = false := by
          simpa using long
        simp [positional, small, inside, behind]
      · refine Text.Digits.isCanonical_of_head (by simp [nonempty]) ?_
        rwa [List.head?_take, if_neg (by omega)]
      · simpa using long
      · rw [List.take_append_drop, List.length_drop]
        congr 2
        omega
    · refine ⟨ds ++ List.replicate (exponent.toNat + 1 - ds.length) 0, [0], ?_, ?_, by simp, ?_⟩
      · have all : ds.take (exponent.toNat + 1) = ds := List.take_of_length_le (by omega)
        have behind : ds.drop (exponent.toNat + 1) = [] := List.drop_of_length_le (by omega)
        simp only [positional, small, if_false, all, behind, chars_append, chars_replicate_zero]
        rfl
      · refine Text.Digits.isCanonical_of_head (by simp [nonempty]) ?_
        rwa [List.head?_append_of_ne_nil _ nonempty]
      · have shift : exponent + 1 - ds.length = (exponent.toNat + 1 - ds.length : Nat) := by omega
        rw [shift, zpow_natCast, Text.Digits.value_append_singleton, value_append,
          value_replicate_zero, List.length_replicate]
        simp
        field_simp

/-- With a power of ten there is one digit in front of the point, if there is a point. -/
theorem scientific_eq (format : NumberFormat) (first : Digit) (others : List Digit)
    (exponent : Int) :
    ∃ zeros, format.scientific (first :: others) exponent =
      Digits.chars [first] ++ ((if others = [] then [] else '.' :: Digits.chars others) ++
        'e' :: (if exponent < 0 then '-' else '+') ::
          Digits.chars (List.replicate zeros 0 ++ ofNat exponent.natAbs)) := by
  refine ⟨format.exponentWidth - (Text.Digits.text exponent.natAbs).length, ?_⟩
  rw [chars_append, chars_replicate_zero]
  cases others <;> simp [scientific, Text.Digits.text, Digits.chars]

end NumberFormat

/-! ## Reading pieces -/

/-- Nothing at the front of the text belongs to a number in front of it. -/
def Json.Closes (rest : List Char) : Prop :=
  ∀ c tail, rest = c :: tail → Digit.ofChar? c = none ∧ c ≠ '.' ∧ c ≠ 'e' ∧ c ≠ 'E'

variable {rest : List Char}

theorem Json.Closes.ends (closes : Json.Closes rest) (c : Char) (tail : List Char)
    (same : rest = c :: tail) : Digit.ofChar? c = none :=
  (closes c tail same).1

namespace DecimalText

theorem frontFraction_point {behind : List Digit} (nonempty : behind ≠ [])
    (ends : ∀ c tail, rest = c :: tail → Digit.ofChar? c = none) :
    frontFraction ('.' :: (Digits.chars behind ++ rest)) = (some behind, rest) := by
  obtain ⟨d, others, rfl⟩ := List.exists_cons_of_ne_nil nonempty
  simp [frontFraction, Text.Digits.split_append ends]

theorem frontFraction_of_not_point (noPoint : ∀ tail, rest ≠ '.' :: tail) :
    frontFraction rest = (none, rest) := by
  unfold frontFraction
  split
  · exact absurd rfl (noPoint _)
  · rfl

theorem frontExponent_of_closes (closes : Json.Closes rest) : frontExponent rest = (none, rest) := by
  cases rest with
  | nil => rfl
  | cons c tail =>
    obtain ⟨_, _, small, large⟩ := closes c tail rfl
    simp [frontExponent, small, large]

/-- Zeros in front of a written power do not matter. -/
theorem frontExponent_written (exponent : Int) (zeros : Nat) (closes : Json.Closes rest) :
    frontExponent ('e' :: (if exponent < 0 then '-' else '+') ::
      (Digits.chars (List.replicate zeros 0 ++ ofNat exponent.natAbs) ++ rest)) =
        (some exponent, rest) := by
  have nonempty : List.replicate zeros 0 ++ ofNat exponent.natAbs ≠ [] := by
    simp [(Text.Digits.isCanonical_ofNat exponent.natAbs).nonempty]
  have read : value (List.replicate zeros 0 ++ ofNat exponent.natAbs) = exponent.natAbs := by
    rw [value_append, value_replicate_zero, Text.Digits.value_ofNat, Nat.zero_mul, Nat.zero_add]
  generalize List.replicate zeros 0 ++ ofNat exponent.natAbs = power at nonempty read
  obtain ⟨d, others, rfl⟩ := List.exists_cons_of_ne_nil nonempty
  by_cases negative : exponent < 0
  · simp [frontExponent, negative, Text.splitSign, Text.Digits.split_append closes.ends, read,
      abs_of_neg]
  · simp [frontExponent, negative, Text.splitSign, Text.Digits.split_append closes.ends, read,
      abs_of_nonneg, not_lt.1 negative]

end DecimalText

namespace Json

/-- A number is read piece by piece. -/
theorem number?_eq {whole : List Digit} (canonical : IsCanonical whole) (negative : Bool)
    {behind middle : List Char} {fraction? : Option (List Digit)} {exponent? : Option Int}
    (ends : ∀ c tail, behind = c :: tail → Digit.ofChar? c = none)
    (fraction : DecimalText.frontFraction behind = (fraction?, middle))
    (exponent : DecimalText.frontExponent middle = (exponent?, rest)) :
    number? ((if negative then ['-'] else []) ++ (Digits.chars whole ++ behind)) =
      some (⟨negative, whole, fraction?, exponent?⟩, rest) := by
  obtain ⟨d, others, rfl⟩ := List.exists_cons_of_ne_nil canonical.nonempty
  have cut : split (d.toChar :: (Digits.chars others ++ behind)) = (d :: others, behind) :=
    @Text.Digits.split_append (d :: others) behind ends
  have digits : ∀ d : Digit, d.toChar ≠ '-' := by decide
  have unsigned := digits d
  have spelled : Digits.chars (d :: others) ++ behind =
      d.toChar :: (Digits.chars others ++ behind) := rfl
  -- A zero in front stands alone, and nothing is cut off behind it.
  have leading : (if d = 0 then ([d], Digits.chars others ++ behind) else (d :: others, behind)) =
      (d :: others, behind) := by
    by_cases zero : d = 0
    · have single : d :: others = [0] := canonical.lead (congrArg some zero)
      cases single
      rfl
    · rw [if_neg zero]
  cases negative with
  | true => simp [number?, spelled, cut, leading, fraction, exponent]
  | false => simp [number?, spelled, unsigned, cut, leading, fraction, exponent]

end Json

/-! ## Reading numbers -/

namespace Binary64

theorem shortest_pos {units : Nat} (fits : Fits units) (nonzero : units ≠ 0) :
    0 < (shortest units).1 := by
  refine Nat.pos_of_ne_zero fun vanishes => nonzero ?_
  have read := ofDecimal_shortest fits nonzero false
  rw [vanishes, ofDecimal_zero] at read
  cases read
  rfl

/-- The leading digit of a decimal that reads back has a small power of ten. -/
theorem leading_bounds {units c n : Nat} {e : Int} (fits : Fits units) (nonzero : units ≠ 0)
    (reads : readsBack units c e = true) (wide : 400 ≤ n) :
    (e + (ofNat c).length - 1).natAbs ≤ n := by
  obtain ⟨low, high⟩ := decimal_bounds fits nonzero reads wide
  have ten : (10 : ℚ) ≠ 0 := by norm_num
  have power : (0 : ℚ) < 10 ^ e := zpow_pos (by norm_num) _
  have positive : 0 < c := by
    refine Nat.pos_of_ne_zero ?_
    rintro rfl
    norm_num at low
  have present : 0 < (ofNat c).length :=
    List.length_pos_iff.2 (Text.Digits.isCanonical_ofNat c).nonempty
  have below : (10 : ℚ) ^ (e + (ofNat c).length - 1) ≤ c * 10 ^ e := by
    have digits : ((10 ^ ((ofNat c).length - 1) : Nat) : ℚ) ≤ c :=
      Nat.cast_le.2 (Text.Digits.pow_length_ofNat_le positive)
    have split : e + (ofNat c).length - 1 = ((ofNat c).length - 1 : Nat) + e := by omega
    rw [split, zpow_add₀ ten, zpow_natCast]
    push_cast at digits
    exact mul_le_mul_of_nonneg_right digits power.le
  have above : (c : ℚ) * 10 ^ e < 10 ^ (e + (ofNat c).length) := by
    have digits : (c : ℚ) < (10 ^ (ofNat c).length : Nat) :=
      Nat.cast_lt.2 (by simpa [Text.Digits.value_ofNat] using Text.Digits.value_lt (ofNat c))
    rw [add_comm, zpow_add₀ ten, zpow_natCast]
    push_cast at digits
    exact mul_lt_mul_of_pos_right digits power
  have fromAbove : e + (ofNat c).length - 1 < n := by
    refine (zpow_lt_zpow_iff_right₀ (by norm_num : (1 : ℚ) < 10)).1 ?_
    rw [zpow_natCast]
    exact below.trans_lt high
  have fromBelow : 0 < e + (ofNat c).length + n := by
    refine (zpow_lt_zpow_iff_right₀ (by norm_num : (1 : ℚ) < 10)).1 ?_
    rw [zpow_zero, zpow_add₀ ten, zpow_natCast]
    exact low.trans (mul_lt_mul_of_pos_right above (by positivity))
  omega

end Binary64

namespace NumberFormat

/-- The text of a positive decimal is read as the number nearest to it. -/
theorem number?_decimal (format : NumberFormat) {c : Nat} {e : Int} (positive : 0 < c)
    (small : (e + (ofNat c).length - 1).natAbs ≤ 400) (negative : Bool)
    (closes : Json.Closes rest) :
    ∃ d, Json.number? ((if negative then ['-'] else []) ++ (format.decimal c e ++ rest)) =
      some (d, rest) ∧ d.isWhole = false ∧ d.toBinary64 = .ofDecimal negative c e := by
  obtain ⟨kept, keptLead, same⟩ := dropZeros_ofNat positive e
  simp only [decimal]
  generalize e + (ofNat c).length - 1 = leading at small same ⊢
  generalize dropZeros (ofNat c) = ds at kept keptLead same ⊢
  by_cases plain : format.positionalFrom ≤ leading ∧ leading < format.positionalBelow
  · rw [if_pos plain]
    obtain ⟨whole, behind, spelled, canonical, nonempty, equal⟩ :=
      positional_eq kept keptLead leading
    refine ⟨⟨negative, whole, some behind, none⟩, ?_, rfl, ?_⟩
    · rw [spelled, List.append_assoc, List.cons_append]
      exact Json.number?_eq canonical negative (by rintro _ _ ⟨⟩; decide)
        (DecimalText.frontFraction_point nonempty closes.ends)
        (DecimalText.frontExponent_of_closes closes)
    · rw [Binary64.toBinary64_of_exponent_eq_none rfl]
      exact Binary64.ofDecimal_eq_of_eq (equal.trans same)
  · rw [if_neg plain]
    obtain ⟨first, others, rfl⟩ := List.exists_cons_of_ne_nil kept
    obtain ⟨zeros, spelled⟩ := format.scientific_eq first others leading
    have canonical : IsCanonical [first] :=
      Text.Digits.isCanonical_of_head (by simp) (by simpa using keptLead)
    refine ⟨⟨negative, [first], if others = [] then none else some others, some leading⟩, ?_, ?_, ?_⟩
    · rw [spelled]
      simp only [List.append_assoc, List.cons_append]
      have power := DecimalText.frontExponent_written leading zeros closes
      cases others with
      | nil =>
        exact Json.number?_eq canonical negative (by rintro _ _ ⟨⟩; decide)
          (DecimalText.frontFraction_of_not_point (by simp)) power
      | cons second others =>
        exact Json.number?_eq canonical negative (by rintro _ _ ⟨⟩; decide)
          (DecimalText.frontFraction_point (by simp) (by rintro _ _ ⟨⟩; decide)) power
    · simp [DecimalText.isWhole]
    · have behind : (if others = [] then none else some others).getD [] = others := by
        cases others <;> rfl
      rw [Binary64.toBinary64_of_natAbs_le (by exact small)]
      refine Binary64.ofDecimal_eq_of_eq (Eq.trans ?_ same)
      simp only [DecimalText.fractionDigits, behind, Option.getD_some]
      congr 2
      simp only [List.length_cons]
      omega

end NumberFormat

/-- The text of a finite number is read as that number, and not as an integer. -/
theorem Json.number?_chars (format : NumberFormat) {x : Binary64} (finite : x.isFinite = true)
    (closes : Json.Closes rest) :
    ∃ d, Json.number? (format.chars x ++ rest) = some (d, rest) ∧ d.isWhole = false ∧
      d.toBinary64 = x := by
  cases x with
  | nan | infinite _ => cases finite
  | finite negative units fits =>
    rw [NumberFormat.chars, List.append_assoc]
    by_cases zero : units = 0
    · subst zero
      refine ⟨⟨negative, [0], some [0], none⟩, ?_, rfl, ?_⟩
      · have fraction := @DecimalText.frontFraction_point rest [0] (by simp) closes.ends
        exact Json.number?_eq ⟨by simp, fun _ => rfl⟩ negative (by rintro _ _ ⟨⟩; decide) fraction
          (DecimalText.frontExponent_of_closes closes)
      · rfl
    · rw [if_neg zero, ← Binary64.ofDecimal_shortest fits zero negative]
      have reads := Binary64.readsBack_shortest fits zero
      exact format.number?_decimal (Binary64.shortest_pos fits zero)
        (Binary64.leading_bounds fits zero reads le_rfl) negative closes

end Reckoner
