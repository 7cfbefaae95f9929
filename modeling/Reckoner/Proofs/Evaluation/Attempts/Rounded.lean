import Reckoner.Proofs.Evaluation.Attempts.Exact

/-!
# Rounded evaluation with exceptions

Rounded evaluation once more, with every operation in it that can raise an exception: looking up an
operator by its spelling, reading a literal, dividing, taking a remainder or a power, and cutting a
number off to an integer. Each stands behind the guard, or inside the handler, that it has. The
operations on floating-point numbers are a parameter, `Primitives`, and all that is relied on is
when they raise, `Primitives.Documented`.

Nothing is raised as long as the operations raise only where they are documented to,
`Primitives.exists_attemptRoundedResult`. With `Primitives.standard` the evaluators are the
calculator's own, `attempting_standard`.
-/

namespace Reckoner

/-! ## Rounded evaluation -/

def Binary64.isInfinite : Binary64 → Bool
  | infinite _ => true
  | _ => false

/-- The operations on floating-point numbers that can raise. -/
structure Primitives where
  divide : Binary64 → Binary64 → Attempt Binary64
  remainder : Binary64 → Binary64 → Attempt Binary64
  power : Binary64 → Binary64 → Attempt Binary64
  /-- A number cut off to an integer. -/
  truncate : Binary64 → Attempt Int

namespace Primitives

/-- When the operations raise. -/
structure Documented (p : Primitives) : Prop where
  divide {x y} : (∃ raised, p.divide x y = .error raised) ↔ y.isZero = true
  remainder {x y raised} : p.remainder x y = .error raised →
    y.isZero = true ∨ x.isInfinite = true
  power {x y raised} : p.power x y = .error raised → raised = .overflow ∨ raised = .value
  truncate {x raised} : p.truncate x = .error raised → x.isFinite = false

variable (p : Primitives)

/-- The quotient, with a guard for a divisor of zero. -/
def guardedQuotient (x y : Binary64) : Attempt Binary64 :=
  if y.isZero then
    if x.isZero || x.isNan then .ok .nan else .ok (.infinite (x.isNegative != y.isNegative))
  else p.divide x y

/-- The remainder, with a guard for a divisor of zero and an infinite dividend. -/
def guardedRemainder (x y : Binary64) : Attempt Binary64 :=
  if y.isZero || x.isInfinite then .ok .nan else p.remainder x y

/-- The power, with its two handlers. -/
def handledPower (x y : Binary64) : Attempt Binary64 :=
  match p.power x y with
  | .ok z => .ok z
  | .error raised =>
    if raised = .overflow then .ok (.infinite false)
    else if raised.isWrongValue then .ok .nan
    else .error raised

/-- The operators on floating-point numbers by their spelling. -/
def roundedTable : List (List Char × (Binary64 → Binary64 → Attempt Binary64)) :=
  [(['+'], fun x y => .ok (x.add y)),
    (['-'], fun x y => .ok (x.sub y)),
    (['*'], fun x y => .ok (x.mul y)),
    (['/'], p.guardedQuotient),
    (['%'], p.guardedRemainder),
    (['^'], p.handledPower),
    (['*', '*'], p.handledPower)]

/-- The value of a tree in floating-point numbers. -/
def attemptRounded : Expr → Attempt Binary64
  | .number n => orRaise .value (Binary64.ofChars? n.chars)
  | .signed sign operand => do
    let apply ← orRaise .lookup ((signTable Binary64.neg).lookup sign.char)
    let x ← attemptRounded operand
    return apply x
  | .binary op left right => do
    let apply ← orRaise .lookup (p.roundedTable.lookup op.chars)
    let x ← attemptRounded left
    let y ← attemptRounded right
    apply x y

/-- An integer if the number is a safe one, and otherwise the number. -/
def attemptInteger (x : Binary64) : Attempt Value :=
  if x.toInt?.any isSafe then (p.truncate x).map .integer else .ok (.float x)

/-- The result of a floating-point number. -/
def attemptNormalize (x : Binary64) : Attempt Value :=
  if !x.isFinite then .ok (.float x)
  else if !x.isZero && x.magnitudeLt tinyMagnitude then .ok (.float x)
  else if x.toInt?.isSome then p.attemptInteger x
  else if x.magnitudeLt exponentFormBelow then .ok (.float x)
  else p.attemptInteger (x.roundSignificant significantDigits)

/-- The rounded value of a text. Only a malformed text is handled. -/
def attemptRoundedResult (text : List Char) : Logged (Attempt (Option Value)) := do
  match Expr.parse text with
  | .error error =>
    Logged.tell (noResult "decimal.no_result" text error.message)
    return .ok none
  | .ok tree =>
    return do
      let x ← p.attemptRounded tree
      let value ← p.attemptNormalize x
      return some value

/-! ## Nothing is raised in rounded evaluation -/

section Documented

variable {p} (documented : p.Documented)

include documented

theorem exists_guardedQuotient (x y : Binary64) : ∃ z, p.guardedQuotient x y = .ok z := by
  unfold guardedQuotient
  split
  · split <;> exact ⟨_, rfl⟩
  · rename_i nonzero
    cases divided : p.divide x y with
    | ok z => exact ⟨z, rfl⟩
    | error raised => exact absurd (documented.divide.1 ⟨raised, divided⟩) nonzero

theorem exists_guardedRemainder (x y : Binary64) : ∃ z, p.guardedRemainder x y = .ok z := by
  unfold guardedRemainder
  split
  · exact ⟨_, rfl⟩
  · rename_i unguarded
    cases divided : p.remainder x y with
    | ok z => exact ⟨z, rfl⟩
    | error raised => exact absurd (by simpa using documented.remainder divided) unguarded

theorem exists_handledPower (x y : Binary64) : ∃ z, p.handledPower x y = .ok z := by
  unfold handledPower
  cases power : p.power x y with
  | ok z => exact ⟨z, rfl⟩
  | error raised => rcases documented.power power with rfl | rfl <;> exact ⟨_, rfl⟩

/-- Every operator is in the table, and what the table has for it raises nothing. -/
theorem exists_lookup_roundedTable (o : Op) :
    ∃ apply, p.roundedTable.lookup o.chars = some apply ∧ ∀ x y, ∃ z, apply x y = .ok z := by
  cases o with
  | add | sub | mul => exact ⟨_, rfl, fun x y => ⟨_, rfl⟩⟩
  | div => exact ⟨_, rfl, exists_guardedQuotient documented⟩
  | rem => exact ⟨_, rfl, exists_guardedRemainder documented⟩
  | hat | pow => exact ⟨_, rfl, exists_handledPower documented⟩

theorem exists_attemptRounded (tree : Expr) : ∃ x, p.attemptRounded tree = .ok x := by
  induction tree with
  | number n => exact ⟨.ofNumeral n, by rw [attemptRounded, Binary64.ofChars?_chars, orRaise]⟩
  | signed sign operand ih =>
    obtain ⟨x, value⟩ := ih
    rw [attemptRounded, lookup_signTable, value]
    exact ⟨_, rfl⟩
  | binary o left right ihl ihr =>
    obtain ⟨x, valueLeft⟩ := ihl
    obtain ⟨y, valueRight⟩ := ihr
    obtain ⟨apply, found, total⟩ := exists_lookup_roundedTable documented o
    rw [attemptRounded, found, valueLeft, valueRight]
    exact total x y

theorem exists_attemptInteger (x : Binary64) : ∃ value, p.attemptInteger x = .ok value := by
  unfold attemptInteger
  split
  · rename_i safe
    cases cut : p.truncate x with
    | ok z => exact ⟨_, rfl⟩
    | error raised =>
      have infinite := documented.truncate cut
      cases x with
      | nan | infinite _ => cases safe
      | finite _ _ _ => cases infinite
  · exact ⟨_, rfl⟩

theorem exists_attemptNormalize (x : Binary64) : ∃ value, p.attemptNormalize x = .ok value := by
  unfold attemptNormalize
  split
  · exact ⟨_, rfl⟩
  split
  · exact ⟨_, rfl⟩
  split
  · exact exists_attemptInteger documented x
  split
  · exact ⟨_, rfl⟩
  · exact exists_attemptInteger documented _

/-- Operations that raise only where they are documented to raise nothing in rounded evaluation that
is not turned into a number. -/
theorem exists_attemptRoundedResult (text : List Char) :
    ∃ value?, (p.attemptRoundedResult text).result = .ok value? := by
  unfold attemptRoundedResult
  cases Expr.parse text with
  | error error => exact ⟨none, rfl⟩
  | ok tree =>
    obtain ⟨x, value⟩ := exists_attemptRounded documented tree
    obtain ⟨result, normal⟩ := exists_attemptNormalize documented x
    simp only [value, ok_bind, normal, Logged.result_pure]
    exact ⟨some result, rfl⟩

end Documented

/-! ## Operations as they are at hand -/

/-- The operations on floating-point numbers, with an exception for every result that is undefined
or overflows. -/
def standard : Primitives where
  divide x y := if y.isZero then .error .zeroDivision else .ok (x.div y)
  remainder x y :=
    if !x.isNan && !y.isNan && (y.isZero || x.isInfinite) then .error .value else .ok (x.rem y)
  power x y :=
    if x.isFinite && y.isFinite then
      match x.pow y with
      | .nan => .error .value
      | .infinite false => .error .overflow
      | z => .ok z
    else .ok (x.pow y)
  truncate
    | .nan => .error .value
    | .infinite _ => .error .overflow
    | .finite negative units _ => .ok (Binary64.signedUnits negative (units / Binary64.one))

theorem standard_documented : standard.Documented where
  divide {x y} := by
    cases zero : y.isZero <;> simp [standard, zero]
  remainder {x y raised} refused := by
    by_contra defined
    simp only [not_or, Bool.not_eq_true] at defined
    simp [standard, defined] at refused
  power {x y raised} refused := by
    simp only [standard] at refused
    repeat' split at refused
    all_goals cases refused
    · exact .inr rfl
    · exact .inl rfl
  truncate {x raised} refused := by
    cases x with
    | nan | infinite _ => rfl
    | finite _ _ _ => cases refused

theorem guardedQuotient_standard (x y : Binary64) : standard.guardedQuotient x y = .ok (x.div y) := by
  cases zero : y.isZero with
  | false => simp [guardedQuotient, standard, zero]
  | true =>
    cases y with
    | nan | infinite _ => cases zero
    | finite t b fits =>
      obtain rfl : b = 0 := eq_of_beq zero
      cases x with
      | nan => rfl
      | infinite s => rfl
      | finite s a fits =>
        by_cases vanishes : a = 0 <;>
          simp [guardedQuotient, Binary64.div, Binary64.isZero, Binary64.isNan,
            Binary64.isNegative, vanishes]

theorem guardedRemainder_standard (x y : Binary64) :
    standard.guardedRemainder x y = .ok (x.rem y) := by
  cases guarded : y.isZero || x.isInfinite with
  | false =>
    obtain ⟨nonzero, bounded⟩ := Bool.or_eq_false_iff.1 guarded
    simp [guardedRemainder, standard, nonzero, bounded]
  | true =>
    simp only [guardedRemainder, guarded, if_true]
    cases x with
    | nan | infinite _ => cases y <;> rfl
    | finite s a fits =>
      cases y with
      | nan | infinite _ => cases guarded
      | finite t b fits' =>
        obtain rfl : b = 0 := by simpa [Binary64.isZero, Binary64.isInfinite] using guarded
        rfl

theorem handledPower_standard (x y : Binary64) : standard.handledPower x y = .ok (x.pow y) := by
  simp only [handledPower, standard]
  cases finite : x.isFinite && y.isFinite with
  | false => simp
  | true =>
    cases power : x.pow y with
    | nan => simp [Raised.isWrongValue]
    | infinite negative => cases negative <;> simp
    | finite _ _ _ => simp

theorem lookup_roundedTable_standard (o : Op) :
    standard.roundedTable.lookup o.chars = some fun x y => .ok (o.rounded x y) := by
  cases o with
  | add | sub | mul => rfl
  | div => exact congrArg some (funext₂ guardedQuotient_standard)
  | rem => exact congrArg some (funext₂ guardedRemainder_standard)
  | hat | pow => exact congrArg some (funext₂ handledPower_standard)

theorem attemptRounded_standard (tree : Expr) :
    standard.attemptRounded tree = .ok tree.rounded := by
  induction tree with
  | number n => rw [attemptRounded, Binary64.ofChars?_chars, orRaise, Expr.rounded]
  | signed sign operand ih =>
    rw [attemptRounded, lookup_signTable, ih, Expr.rounded]
    cases sign <;> rfl
  | binary o left right ihl ihr =>
    rw [attemptRounded, lookup_roundedTable_standard, ihl, ihr]
    rfl

theorem attemptInteger_standard (x : Binary64) :
    standard.attemptInteger x = .ok (.ofBinary64 x) := by
  unfold attemptInteger Value.ofBinary64
  cases integer : x.toInt? with
  | none => rfl
  | some z =>
    have cut : standard.truncate x = .ok z := by
      cases x with
      | nan | infinite _ => cases integer
      | finite negative units fits =>
        simp only [Binary64.toInt?] at integer
        split at integer
        · cases integer
          rfl
        · cases integer
    cases safe : isSafe z <;> simp [safe, cut, Except.map]

theorem attemptNormalize_standard (x : Binary64) :
    standard.attemptNormalize x = .ok (normalize x) := by
  unfold attemptNormalize normalize
  simp only [attemptInteger_standard]
  repeat' split
  all_goals rfl

theorem attemptRoundedResult_standard (text : List Char) :
    standard.attemptRoundedResult text =
      ⟨.ok (roundedResult text).result, (roundedResult text).records⟩ := by
  unfold attemptRoundedResult roundedResult roundedValue
  cases Expr.parse text with
  | error error => rfl
  | ok tree =>
    simp only [attemptRounded_standard, ok_bind, attemptNormalize_standard]
    rfl

end Primitives

/-- The evaluators with operations that can raise. What they raise is reported as a breakdown. -/
def Evaluators.attempting (p : Primitives) (report : Raised → Fault) : Evaluators where
  exact text := do return (← attemptExactResult text).mapError report
  rounded text := do return (← p.attemptRoundedResult text).mapError report

/-- With the operations as they are at hand nothing is reported, and the evaluators are the
calculator's own. -/
theorem attempting_standard (report : Raised → Fault) :
    Evaluators.attempting .standard report = .own := by
  have exact : (Evaluators.attempting .standard report).exact = Evaluators.own.exact := by
    funext text
    simp only [Evaluators.attempting, attemptExactResult_eq]
    rfl
  have rounded : (Evaluators.attempting .standard report).rounded = Evaluators.own.rounded := by
    funext text
    simp only [Evaluators.attempting, Primitives.attemptRoundedResult_standard]
    rfl
  exact congrArg₂ Evaluators.mk exact rounded

end Reckoner
