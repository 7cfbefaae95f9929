/-!
# Decimal digits

Digits are numbers below ten, and a run of them is read and written most significant first:

* `Digits.value` reads a run,
* `Digits.ofNat` writes the run of a number, without leading zeros.

`value_ofNat` says that what is written reads back.
-/

namespace Reckoner.Text

abbrev Digit := Fin 10

def Digit.toChar (d : Digit) : Char :=
  Char.ofNat ('0'.toNat + d.val)

/-- The digit that a character stands for. Only the ten characters of ASCII are digits. -/
def Digit.ofChar? (c : Char) : Option Digit :=
  if h : '0'.toNat ≤ c.toNat ∧ c.toNat < '0'.toNat + 10 then
    some ⟨c.toNat - '0'.toNat, by omega⟩
  else
    none

def isDigit (c : Char) : Bool :=
  (Digit.ofChar? c).isSome

theorem Digit.ofChar?_toChar (d : Digit) : Digit.ofChar? d.toChar = some d := by
  revert d; decide

/-- A digit is read from its own character only. -/
theorem Digit.toChar_of_ofChar? {c : Char} {d : Digit} (h : Digit.ofChar? c = some d) :
    d.toChar = c := by
  unfold Digit.ofChar? at h
  split at h
  · rename_i hc
    cases h
    have : '0'.toNat + (c.toNat - '0'.toNat) = c.toNat := by omega
    simp only [Digit.toChar, this, Char.ofNat_toNat]
  · cases h

/-- Whether a text has a minus sign in front, and the text behind a sign of either kind. -/
def splitSign : List Char → Bool × List Char
  | '-' :: rest => (true, rest)
  | '+' :: rest => (false, rest)
  | text => (false, text)

namespace Digits

/-- The digits at the front of a text, and the rest of the text. -/
def split : List Char → List Digit × List Char
  | [] => ([], [])
  | c :: text =>
    match Digit.ofChar? c with
    | some d => (d :: (split text).1, (split text).2)
    | none => ([], c :: text)

def chars (ds : List Digit) : List Char :=
  ds.map Digit.toChar

theorem chars_split (text : List Char) : chars (split text).1 ++ (split text).2 = text := by
  induction text with
  | nil => rfl
  | cons c text ih =>
    simp only [split]
    cases h : Digit.ofChar? c with
    | none => rfl
    | some d =>
      simp only [chars, List.map_cons, List.cons_append, Digit.toChar_of_ofChar? h]
      exact congrArg (c :: ·) ih

/-- What is left after the digits starts with none. -/
theorem ofChar?_head_split (text : List Char) {c : Char} {rest : List Char}
    (h : (split text).2 = c :: rest) : Digit.ofChar? c = none := by
  induction text with
  | nil => simp [split] at h
  | cons a text ih =>
    simp only [split] at h
    cases ha : Digit.ofChar? a with
    | none => simp only [ha, List.cons.injEq] at h; exact h.1 ▸ ha
    | some d => simp only [ha] at h; exact ih h

/-- The longest run of digits that is read or written as an integer. -/
def maxRun : Nat := 4300

def value (ds : List Digit) : Nat :=
  ds.foldl (fun n d => 10 * n + d.val) 0

/-- Writes the digits of `n` in front of `tail`. -/
def ofNatAppend (n : Nat) (tail : List Digit) : List Digit :=
  if h : n < 10 then ⟨n, h⟩ :: tail
  else ofNatAppend (n / 10) (⟨n % 10, Nat.mod_lt n (by decide)⟩ :: tail)
termination_by n

/-- The digits of a number, most significant first and without leading zeros. -/
def ofNat (n : Nat) : List Digit :=
  ofNatAppend n []

theorem foldl_value_ofNatAppend (n : Nat) (tail : List Digit) :
    value (ofNatAppend n tail) = tail.foldl (fun n d => 10 * n + d.val) n := by
  fun_induction ofNatAppend n tail with
  | case1 n tail h => simp [value]
  | case2 n tail h ih =>
    rw [ih, List.foldl_cons]
    congr 1
    simp only
    omega

theorem value_ofNat (n : Nat) : value (ofNat n) = n := by
  simp [ofNat, foldl_value_ofNatAppend]

def text (n : Nat) : List Char :=
  chars (ofNat n)

/-- An integer as text: its digits, after a minus sign if it is negative. -/
def textInt (z : Int) : List Char :=
  if z < 0 then '-' :: text z.natAbs else text z.natAbs

end Digits

end Reckoner.Text
