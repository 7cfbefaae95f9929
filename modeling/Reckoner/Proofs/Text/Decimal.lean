import Reckoner.Text.Digits

/-!
# Canonical decimals

A decimal is canonical if it has no sign but a minus, and no zero in front but that of zero itself.
`IsDecimal` says so without a look at how integers are written. Every integer has one canonical
decimal, and it is the one that is written, `isDecimal_iff`. How many digits it has is told by the
powers of ten, `Digits.length_ofNat_le_iff`.
-/

namespace Reckoner.Text

-- Powers are those of the core library, whatever else is in scope.
attribute [local instance (high)] instPowNat

namespace Digits

/-! ## Runs of digits -/

/-- A run in which only the zero itself begins with a zero. -/
structure IsCanonical (ds : List Digit) : Prop where
  nonempty : ds ≠ []
  lead : ds.head? = some 0 → ds = [0]

theorem value_append_singleton (ds : List Digit) (d : Digit) :
    value (ds ++ [d]) = 10 * value ds + d.val := by
  simp [value, List.foldl_append]

/-- A run of some length stays below the power of ten of that length. -/
theorem value_lt (ds : List Digit) : value ds < 10 ^ ds.length := by
  obtain ⟨reversed, rfl⟩ : ∃ reversed, ds = reversed.reverse := ⟨ds.reverse, by simp⟩
  induction reversed with
  | nil => decide
  | cons d reversed ih =>
    rw [List.reverse_cons, value_append_singleton, List.length_append, List.length_singleton,
      Nat.pow_succ]
    have := d.isLt
    omega

/-- Digits behind the first one only make a value larger. -/
theorem foldl_value_pos {n : Nat} (positive : 0 < n) (ds : List Digit) :
    0 < ds.foldl (fun n d => 10 * n + d.val) n := by
  induction ds generalizing n with
  | nil => exact positive
  | cons d ds ih =>
    have next : 0 < 10 * n + d.val := by omega
    exact ih next

/-- Without its last digit a longer canonical run is canonical, and not zero. -/
theorem IsCanonical.init {ds : List Digit} {d : Digit} (canonical : IsCanonical (ds ++ [d]))
    (nonempty : ds ≠ []) : IsCanonical ds ∧ 0 < value ds := by
  obtain ⟨first, rest, rfl⟩ := List.exists_cons_of_ne_nil nonempty
  have lead : first ≠ 0 := by
    rintro rfl
    simpa using canonical.lead rfl
  refine ⟨⟨nonempty, ?_⟩, ?_⟩
  · intro zero
    exact absurd (Option.some.inj zero) lead
  · have positive : 0 < 10 * 0 + first.val := by
      have : first.val ≠ 0 := fun zero => lead (Fin.ext zero)
      omega
    exact foldl_value_pos positive rest

/-- Writing a value gives back the run that was read, if it is canonical. -/
theorem ofNatAppend_value {ds : List Digit} (canonical : IsCanonical ds) (tail : List Digit) :
    ofNatAppend (value ds) tail = ds ++ tail := by
  obtain ⟨reversed, rfl⟩ : ∃ reversed, ds = reversed.reverse := ⟨ds.reverse, by simp⟩
  induction reversed generalizing tail with
  | nil => exact absurd rfl canonical.nonempty
  | cons d reversed ih =>
    rw [List.reverse_cons] at canonical ⊢
    rw [value_append_singleton, ofNatAppend]
    have := d.isLt
    by_cases empty : reversed.reverse = []
    · simp [empty, value]
    · obtain ⟨canonical', positive⟩ := canonical.init empty
      have large : ¬ 10 * value reversed.reverse + d.val < 10 := by omega
      have quotient : (10 * value reversed.reverse + d.val) / 10 = value reversed.reverse := by
        omega
      have digit : (⟨(10 * value reversed.reverse + d.val) % 10, Nat.mod_lt _ (by decide)⟩ : Digit)
          = d := by
        apply Fin.ext
        show (10 * value reversed.reverse + d.val) % 10 = d.val
        omega
      rw [dif_neg large, quotient, digit, ih _ canonical', List.append_assoc,
        List.singleton_append]

theorem head?_ofNatAppend {n : Nat} (positive : 0 < n) (tail : List Digit) :
    ∃ d, (ofNatAppend n tail).head? = some d ∧ d ≠ 0 := by
  fun_induction ofNatAppend n tail with
  | case1 n tail small =>
    refine ⟨_, rfl, ?_⟩
    intro zero
    have : n = 0 := congrArg Fin.val zero
    omega
  | case2 n tail large ih => exact ih (by omega)

theorem isCanonical_ofNat (n : Nat) : IsCanonical (ofNat n) := by
  by_cases zero : n = 0
  · subst zero
    have single : ofNat 0 = [0] := by
      rw [ofNat, ofNatAppend]
      rfl
    rw [single]
    exact ⟨by decide, fun _ => rfl⟩
  · obtain ⟨d, head, nonzero⟩ := head?_ofNatAppend (Nat.pos_of_ne_zero zero) []
    refine ⟨?_, ?_⟩
    · intro empty
      rw [ofNat] at empty
      rw [empty] at head
      cases head
    · intro lead
      rw [ofNat, head] at lead
      exact absurd (Option.some.inj lead) nonzero

theorem ofNat_value {ds : List Digit} (canonical : IsCanonical ds) : ofNat (value ds) = ds := by
  rw [ofNat, ofNatAppend_value canonical, List.append_nil]

theorem length_ofNatAppend_le {n k : Nat} (tail : List Digit) (positive : 0 < k)
    (small : n < 10 ^ k) : (ofNatAppend n tail).length ≤ k + tail.length := by
  fun_induction ofNatAppend n tail generalizing k with
  | case1 n tail _ =>
    rw [List.length_cons]
    omega
  | case2 n tail large ih =>
    obtain ⟨k, rfl⟩ : ∃ j, k = j + 1 := ⟨k - 1, by omega⟩
    have pred : 0 < k := by
      refine Nat.pos_of_ne_zero ?_
      rintro rfl
      exact large (by simpa using small)
    have bound : n / 10 < 10 ^ k := by
      rw [Nat.pow_succ] at small
      omega
    have := ih pred bound
    rw [List.length_cons] at this
    omega

/-- The digits of a number are counted by the powers of ten. -/
theorem length_ofNat_le_iff {n k : Nat} (positive : 0 < k) :
    (ofNat n).length ≤ k ↔ n < 10 ^ k := by
  constructor
  · intro short
    calc n
      _ = value (ofNat n) := (value_ofNat n).symm
      _ < 10 ^ (ofNat n).length := value_lt _
      _ ≤ 10 ^ k := Nat.pow_le_pow_right (by decide) short
  · intro small
    exact length_ofNatAppend_le [] positive small

end Digits

/-! ## Decimals of integers -/

/-- The text is a canonical decimal of the integer. -/
def IsDecimal (text : List Char) (z : Int) : Prop :=
  ∃ ds, Digits.IsCanonical ds ∧ Digits.value ds = z.natAbs ∧
    text = (if z < 0 then ['-'] else []) ++ Digits.chars ds

/-- An integer has one canonical decimal, which is how it is written. -/
theorem isDecimal_iff {text : List Char} {z : Int} :
    IsDecimal text z ↔ text = Digits.textInt z := by
  have written : Digits.textInt z =
      (if z < 0 then ['-'] else []) ++ Digits.chars (Digits.ofNat z.natAbs) := by
    unfold Digits.textInt
    split <;> rfl
  rw [written]
  constructor
  · rintro ⟨ds, canonical, value, rfl⟩
    rw [← value, Digits.ofNat_value canonical]
  · rintro rfl
    exact ⟨_, Digits.isCanonical_ofNat _, Digits.value_ofNat _, rfl⟩

end Reckoner.Text
