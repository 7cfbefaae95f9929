import Reckoner.Json.Bytes

/-!
# Bytes of texts

A text that is written in UTF-8 is read back character by character, `Text.utf8Chars?_encode`,
whatever mark stands for halves of pairs, since no character is one. If it opens with characters of
ASCII it is read back as the body of a message, `Text.bodyChars?_utf8`: of the byte-order marks, all
but the narrow one have bytes that UTF-8 has not.
-/

namespace Reckoner

namespace Text

/-! ## Characters -/

variable {mark : Char}

theorem unitChar_toNat (c : Char) : unitChar mark c.toNat = c := by
  have valid : c.toNat.isValidChar := c.valid
  have single : (isHighUnit c.toNat || isLowUnit c.toNat) = false := by
    simp only [Nat.isValidChar, isHighUnit, isLowUnit, Bool.or_eq_false_iff,
      Bool.and_eq_false_iff, decide_eq_false_iff_not] at valid ⊢
    omega
  rw [unitChar, single]
  exact Char.ofNat_toNat c

theorem firstByte?_one {n : Nat} (small : n < 0x80) : firstByte? n = some (0, n, 0) :=
  if_pos small

theorem firstByte?_two {n : Nat} (small : n < 32) :
    firstByte? (n + 192) = some (1, n, 0x80) := by
  rw [firstByte?, if_neg (by omega), if_neg (by omega), if_pos (by omega), Nat.add_sub_cancel]

theorem firstByte?_three {n : Nat} (small : n < 16) :
    firstByte? (n + 224) = some (2, n, 0x800) := by
  rw [firstByte?, if_neg (by omega), if_neg (by omega), if_neg (by omega), if_pos (by omega),
    Nat.add_sub_cancel]

theorem firstByte?_four {n : Nat} (small : n < 8) :
    firstByte? (n + 240) = some (3, n, 0x10000) := by
  rw [firstByte?, if_neg (by omega), if_neg (by omega), if_neg (by omega), if_neg (by omega),
    if_pos (by omega), Nat.add_sub_cancel]

theorem toNat_byte {n : Nat} (small : n < 256) : (UInt8.ofNat n).toNat = n :=
  UInt8.toNat_ofNat_of_lt' small

theorem followingBytes?_zero (bits : Nat) (bytes : List UInt8) :
    followingBytes? 0 bits bytes = some (bits, bytes) := by
  rw [followingBytes?]

theorem followingBytes?_cons {n : Nat} (small : n < 64) (more bits : Nat) (bytes : List UInt8) :
    followingBytes? (more + 1) bits (UInt8.ofNat (n + 128) :: bytes) =
      followingBytes? more (bits * 64 + n) bytes := by
  rw [followingBytes?, toNat_byte (by omega), if_pos (by omega), Nat.add_sub_cancel]

theorem frontNumber?_of_following {first more bits least n : Nat} {bytes rest : List UInt8}
    (small : first < 256) (shown : firstByte? first = some (more, bits, least))
    (followed : followingBytes? more bits bytes = some (n, rest))
    (shortest : least ≤ n) (bound : n < 0x110000) :
    frontNumber? (UInt8.ofNat first) bytes = some (n, rest) := by
  simp only [frontNumber?, toNat_byte small, shown, followed]
  exact if_pos ⟨shortest, Nat.le_of_lt_succ bound⟩

/-- The first character is read back, whatever follows it. -/
theorem frontNumber?_encode (c : Char) (rest : List UInt8) :
    ∃ b bytes, String.utf8EncodeChar c = b :: bytes ∧
      frontNumber? b (bytes ++ rest) = some (c.toNat, rest) := by
  have bound : c.toNat < 0x110000 := by
    have valid : c.toNat.isValidChar := c.valid
    simp only [Nat.isValidChar] at valid
    omega
  have same : c.val.toNat = c.toNat := rfl
  simp only [String.utf8EncodeChar, same]
  generalize c.toNat = n at bound
  have tail (k : Nat) : k % 64 < 64 := Nat.mod_lt _ (by decide)
  -- One case for each number of bytes; the digits of `n` to the base 64 are put together again.
  split
  · refine ⟨_, _, rfl, ?_⟩
    exact frontNumber?_of_following (by omega) (firstByte?_one (by omega)) rfl (by omega) bound
  split
  · have number : n / 64 % 32 * 64 + n % 64 = n := by omega
    have first := @firstByte?_two (n / 64 % 32) (by omega)
    refine ⟨_, _, rfl, frontNumber?_of_following (by omega) first ?_ (by omega) bound⟩
    simp only [List.cons_append, List.nil_append, followingBytes?_cons (tail _), number,
      followingBytes?_zero]
  split
  · have number : (n / 4096 % 16 * 64 + n / 64 % 64) * 64 + n % 64 = n := by omega
    have first := @firstByte?_three (n / 4096 % 16) (by omega)
    refine ⟨_, _, rfl, frontNumber?_of_following (by omega) first ?_ (by omega) bound⟩
    simp only [List.cons_append, List.nil_append, followingBytes?_cons (tail _), number,
      followingBytes?_zero]
  · have number :
        ((n / 262144 % 8 * 64 + n / 4096 % 64) * 64 + n / 64 % 64) * 64 + n % 64 = n := by omega
    have first := @firstByte?_four (n / 262144 % 8) (by omega)
    refine ⟨_, _, rfl, frontNumber?_of_following (by omega) first ?_ (by omega) bound⟩
    simp only [List.cons_append, List.nil_append, followingBytes?_cons (tail _), number,
      followingBytes?_zero]

/-! ## Texts -/

theorem utf8Chars?_cons_of_front {b : UInt8} {bytes rest : List UInt8} {n : Nat}
    (front : frontNumber? b bytes = some (n, rest)) :
    utf8Chars? mark (b :: bytes) = (utf8Chars? mark rest).map (unitChar mark n :: ·) := by
  rw [utf8Chars?]
  split
  · rename_i unread
    rw [front] at unread
    cases unread
  · rename_i read
    rw [front] at read
    cases read
    rfl

theorem utf8Chars?_cons_of_broken {b : UInt8} {bytes : List UInt8}
    (broken : frontNumber? b bytes = none) : utf8Chars? mark (b :: bytes) = none := by
  rw [utf8Chars?]
  split
  · rfl
  · rename_i read
    rw [broken] at read
    cases read

theorem utf8Chars?_encode (text : List Char) :
    utf8Chars? mark (text.flatMap String.utf8EncodeChar) = some text := by
  induction text with
  | nil => rw [List.flatMap_nil, utf8Chars?]
  | cons c text ih =>
    obtain ⟨b, bytes, encoded, front⟩ :=
      frontNumber?_encode c (text.flatMap String.utf8EncodeChar)
    rw [List.flatMap_cons, encoded, List.cons_append, utf8Chars?_cons_of_front front, ih,
      unitChar_toNat]
    rfl

/-! ## Layouts -/

/-- Of the byte-order marks, the narrow one is a character, and no other one begins a text in
UTF-8. -/
theorem Layout.ofMarked_of_unmarked {bytes : List UInt8} {text : List Char}
    (decoded : utf8Chars? mark bytes = some text) (unmarked : text.head? ≠ some Json.byteOrderMark) :
    Layout.ofMarked bytes = (.ofBytes bytes, bytes) := by
  unfold Layout.ofMarked
  split
  -- Two zeros are characters of their own, but no character begins with 0xFE or 0xFF.
  · rw [utf8Chars?_cons_of_front rfl, utf8Chars?_cons_of_front rfl,
      utf8Chars?_cons_of_broken rfl] at decoded
    cases decoded
  · rw [utf8Chars?_cons_of_broken rfl] at decoded
    cases decoded
  · rw [utf8Chars?_cons_of_broken rfl] at decoded
    cases decoded
  · rw [utf8Chars?_cons_of_broken rfl] at decoded
    cases decoded
  · rename_i rest
    have front : frontNumber? 0xEF (0xBB :: 0xBF :: rest) = some (0xFEFF, rest) := by
      simp [frontNumber?, firstByte?, followingBytes?]
    rw [utf8Chars?_cons_of_front front] at decoded
    obtain ⟨text', _, rfl⟩ := Option.map_eq_some_iff.1 decoded
    exact absurd rfl unmarked
  · rfl

/-- A text that opens with two narrow characters is laid out as it seems. -/
theorem bodyChars?_utf8 {a b : Char} {x y : UInt8} (noMark : a ≠ Json.byteOrderMark)
    (first : String.utf8EncodeChar a = [x] ∧ x ≠ 0)
    (second : String.utf8EncodeChar b = [y] ∧ y ≠ 0) (tail : List Char) :
    bodyChars? mark (utf8 (String.ofList (a :: b :: tail))) = some (a :: b :: tail) := by
  have bytes : utf8 (String.ofList (a :: b :: tail)) =
      x :: y :: tail.flatMap String.utf8EncodeChar := by
    simp [utf8, first.1, second.1]
  have decoded : utf8Chars? mark (utf8 (String.ofList (a :: b :: tail))) =
      some (a :: b :: tail) := by
    rw [utf8, String.toList_ofList]
    exact utf8Chars?_encode _
  have layout : Layout.ofBytes (utf8 (String.ofList (a :: b :: tail))) = .narrow := by
    rw [bytes]
    unfold Layout.ofBytes
    split <;> simp_all
  rw [bodyChars?, Layout.ofMarked_of_unmarked decoded (by simpa using noMark), layout]
  exact decoded

end Text

end Reckoner
