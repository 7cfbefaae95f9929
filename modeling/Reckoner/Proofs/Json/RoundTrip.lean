import Reckoner.Json.Writer
import Reckoner.Proofs.Binary64.Written
import Reckoner.Proofs.Json.Bytes

/-!
# JSON text is read back

A value that is written is read as the same value, `ofChars?_chars`, in every style in which only
blanks stand behind the marks of the separators, `Style.Readable`. `Writable` tells which values can
be written so: their integers are not too long, their other numbers are finite, and no object has
two members of one name.

A reader that gives a value and leaves a rest `Reads` it. What stands between brackets is read if
each of the values in there is, `ReadsAll`, and they are read one level further down. So the
induction, `reads_chars`, is on the value for every number of levels that is enough for its text.
-/

namespace Reckoner.Json

open Text (Digit isHighUnit isLowUnit unitChar)
open Text.Digits (split ofNat maxRun)

-- Powers are those of the core library, whatever else is in scope.
attribute [local instance (high)] instPowNat

/-- Reading gives `a` and leaves `rest`. -/
def Reads {α : Type} {text : List Char} (reading : Reading α text) (a : α) (rest : List Char) :
    Prop :=
  ∃ shorter, reading = .ok (a, ⟨rest, shorter⟩)

/-- Only blanks stand behind the marks of the separators. -/
structure Style.Readable (style : Style) : Prop where
  items : ∃ blanks, style.itemSeparator = ',' :: blanks ∧ ∀ c ∈ blanks, isSpace c = true
  names : ∃ blanks, style.nameSeparator = ':' :: blanks ∧ ∀ c ∈ blanks, isSpace c = true

theorem Style.readable_compact : Style.compact.Readable :=
  ⟨⟨[], rfl, nofun⟩, [], rfl, nofun⟩

theorem Style.readable_spaced : Style.spaced.Readable :=
  ⟨⟨[' '], rfl, by simp [isSpace]⟩, [' '], rfl, by simp [isSpace]⟩

variable {style : Style} {mark : Char}

/-! ## Strings -/

theorem unit?_hex {n : Nat} (small : n < 0x10000) :
    ∃ a b c d, Text.hex 4 n = [a, b, c, d] ∧ unit? a b c d = some n := by
  refine ⟨_, _, _, _, rfl, ?_⟩
  have digit (k : Nat) : Text.hexValue? (Text.hexDigit (k % 16)) = some (k % 16) :=
    Text.hexValue?_hexDigit (Nat.mod_lt _ (by decide))
  simp only [unit?, digit, Option.bind_eq_bind, Option.bind_some, Option.pure_def,
    Option.some.injEq]
  omega

/-- A character is written as an escape of one letter, as an escape of units, or as it is. -/
theorem char_cases (style : Style) (c : Char) :
    (∃ letter, style.char c = ['\\', letter] ∧ letter ≠ 'u' ∧ escaped? letter = some c) ∨
      style.char c = charEscape c ∨
        (style.char c = [c] ∧ c ≠ '"' ∧ c ≠ '\\' ∧ ¬c.toNat < 0x20) := by
  by_cases lettered : c ∈ ['"', '\\', '\n', '\r', '\t', '\x0c', '\x08']
  · simp only [List.mem_cons, List.not_mem_nil, or_false] at lettered
    rcases lettered with rfl | rfl | rfl | rfl | rfl | rfl | rfl <;>
      exact .inl ⟨_, rfl, by decide, rfl⟩
  · simp only [List.mem_cons, List.not_mem_nil, or_false, not_or] at lettered
    by_cases small : c.toNat < 0x20
    · refine .inr (.inl ?_)
      simp [Style.char, lettered, small]
    by_cases foreign : style.asciiOnly ∧ 0x7F ≤ c.toNat
    · refine .inr (.inl ?_)
      simp [Style.char, lettered, small, foreign]
    · refine .inr (.inr ⟨?_, lettered.1, lettered.2.1, small⟩)
      simp [Style.char, lettered, small, foreign]

/-- A character is no half of a pair. -/
theorem isHighUnit_toNat (c : Char) : isHighUnit c.toNat = false := by
  have valid : c.toNat.isValidChar := c.valid
  simp only [Nat.isValidChar] at valid
  simp only [isHighUnit, Bool.and_eq_false_iff, decide_eq_false_iff_not]
  omega

theorem reads_unitEscape (opening : Nat) (c next : Char) (small : c.toNat < 0x10000)
    (others : List Char) :
    Reads (piece mark opening (unitEscape c.toNat ++ next :: others)) (.char c) (next :: others) := by
  obtain ⟨a, b, c', d, digits, read⟩ := unit?_hex small
  rw [unitEscape, digits]
  refine ⟨by simp, ?_⟩
  simp [piece, read, isHighUnit_toNat, Text.unitChar_toNat]

/-- A character beyond sixteen bits is written as a pair of units, which make it up again. -/
theorem exists_pair {c : Char} (large : ¬c.toNat < 0x10000) :
    ∃ high low, isHighUnit high = true ∧ isLowUnit low = true ∧
      charEscape c = unitEscape high ++ unitEscape low ∧ Text.pairChar high low = c := by
  have bound : c.toNat < 0x110000 := by
    have valid : c.toNat.isValidChar := c.valid
    simp only [Nat.isValidChar] at valid
    omega
  have number : 0x10000 + (0xD800 + (c.toNat - 0x10000) / 0x400 - 0xD800) * 0x400 +
      (0xDC00 + (c.toNat - 0x10000) % 0x400 - 0xDC00) = c.toNat := by omega
  refine ⟨0xD800 + (c.toNat - 0x10000) / 0x400, 0xDC00 + (c.toNat - 0x10000) % 0x400, ?_, ?_, ?_,
    ?_⟩
  · simp only [isHighUnit, Bool.and_eq_true, decide_eq_true_eq]
    omega
  · simp only [isLowUnit, Bool.and_eq_true, decide_eq_true_eq]
    omega
  · rw [charEscape, if_neg large]
  · rw [Text.pairChar, number]
    exact Char.ofNat_toNat c

theorem reads_pair (opening : Nat) (c next : Char) (large : ¬c.toNat < 0x10000)
    (others : List Char) :
    Reads (piece mark opening (charEscape c ++ next :: others)) (.char c) (next :: others) := by
  obtain ⟨high, low, isHigh, isLow, pair, same⟩ := exists_pair large
  have small : high < 0x10000 ∧ low < 0x10000 := by
    simp only [isHighUnit, isLowUnit, Bool.and_eq_true, decide_eq_true_eq] at isHigh isLow
    omega
  obtain ⟨a, b, c', d, digits, read⟩ := unit?_hex small.1
  obtain ⟨a', b', c'', d', digits', read'⟩ := unit?_hex small.2
  rw [pair, unitEscape, unitEscape, digits, digits']
  refine ⟨by simp, ?_⟩
  simp [piece, secondUnit, read, read', isHigh, isLow, same]

/-- A character inside a string is read back. An escape needs a character behind it. -/
theorem reads_piece (opening : Nat) (c : Char) {rest : List Char} (more : rest ≠ []) :
    Reads (piece mark opening (style.char c ++ rest)) (.char c) rest := by
  obtain ⟨next, others, rfl⟩ := List.exists_cons_of_ne_nil more
  rcases char_cases style c with ⟨letter, written, notUnit, read⟩ | written |
    ⟨written, notMark, notEscape, large⟩
  · rw [written]
    refine ⟨by simp, ?_⟩
    simp [piece, notUnit, read]
  · rw [written]
    by_cases small : c.toNat < 0x10000
    · rw [charEscape, if_pos small]
      exact reads_unitEscape opening c next small others
    · exact reads_pair opening c next small others
  · rw [written]
    refine ⟨by simp, ?_⟩
    simp [piece, notEscape, large]

/-- A string is read back up to its closing mark. -/
theorem reads_string (opening : Nat) (cs rest : List Char) :
    Reads (string mark opening (cs.flatMap style.char ++ '"' :: rest)) cs rest := by
  induction cs with
  | nil =>
    rw [List.flatMap_nil, List.nil_append, string]
    exact ⟨_, rfl⟩
  | cons c cs ih =>
    obtain ⟨shorter, read⟩ := ih
    have more : cs.flatMap style.char ++ '"' :: rest ≠ [] := by simp
    obtain ⟨shorter', front⟩ := @reads_piece style mark opening c _ more
    rw [List.flatMap_cons, List.append_assoc, string, front]
    simp only [read]
    exact ⟨_, rfl⟩

theorem string_append (s : String) (rest : List Char) :
    style.string s ++ rest = '"' :: (s.toList.flatMap style.char ++ '"' :: rest) := by
  simp [Style.string]

theorem reads_str (levels : Nat) (s : String) (rest : List Char) :
    Reads (value mark (levels + 1) (chars style (.str s) ++ rest)) (.str s) rest := by
  obtain ⟨_, read⟩ := @reads_string style mark
    ((s.toList.flatMap style.char ++ '"' :: rest).length + 1) s.toList rest
  rw [chars, string_append, value]
  simp only [read, String.ofList_toList]
  exact ⟨_, rfl⟩

/-! ## Numbers -/

/-- A number begins with a sign or a digit. -/
theorem number?_eq_none {c : Char} (noSign : c ≠ '-') (noDigit : Digit.ofChar? c = none)
    (tail : List Char) : number? (c :: tail) = none := by
  simp [number?, noSign, split, noDigit]

theorem closes_nil : Closes [] := fun _ _ same => nomatch same

theorem closes_cons {c : Char} (separates : c ∈ [',', ']', '\x7d']) (rest : List Char) :
    Closes (c :: rest) := by
  intro c' tail same
  cases same
  simp only [List.mem_cons, List.not_mem_nil, or_false] at separates
  rcases separates with rfl | rfl | rfl <;> decide

/-- The values that are read by their names. -/
def named : List Json :=
  [.null, .bool true, .bool false, .float .nan, .float (.infinite false), .float (.infinite true)]

theorem scalar_eq_ok {text : List Char} {j : Json} {rest : { rest // rest.length < text.length }}
    (read : scalar text = .ok (j, rest)) :
    j ∈ named ∨ ∃ n, number? text = some (n, rest.1) ∧ numberValue n = .ok j := by
  unfold scalar at read
  split at read
  iterate 6
    · cases read
      simp [named]
  split at read
  · cases read
  · rename_i number
    split at read
    · cases read
    · rename_i value
      split at read
      · cases read
        exact .inr ⟨_, number, value⟩
      · cases read

/-- What begins with a number begins with no name. -/
theorem scalar_of_number {text rest : List Char} {n : DecimalText} {j : Json}
    (number : number? text = some (n, rest)) (value : numberValue n = .ok j)
    (shorter : rest.length < text.length) : scalar text = .ok (j, ⟨rest, shorter⟩) := by
  unfold scalar
  split
  all_goals first | cases number | simp [number, value, shorter]

/-- What begins with a number begins with nothing else. -/
theorem reads_number {front : List Char} {j : Json}
    (number : ∀ rest, Closes rest →
      ∃ n, number? (front ++ rest) = some (n, rest) ∧ numberValue n = .ok j)
    (levels : Nat) {rest : List Char} (closes : Closes rest) :
    Reads (value mark (levels + 1) (front ++ rest)) j rest := by
  -- The empty text is no number.
  have shorter : rest.length < (front ++ rest).length := by
    obtain ⟨n, alone, _⟩ := number [] closes_nil
    cases front with
    | nil => cases alone
    | cons c front =>
      rw [List.length_append, List.length_cons]
      omega
  obtain ⟨n, read, given⟩ := number rest closes
  generalize front ++ rest = text at read shorter
  have plain : Reads (scalar text) j rest := ⟨shorter, scalar_of_number read given shorter⟩
  -- In the other cases the text begins as no number does, against `read`.
  unfold value
  split
  all_goals first | cases read | exact plain

theorem number?_textInt (z : Int) {rest : List Char} (closes : Closes rest) :
    number? (Text.Digits.textInt z ++ rest) =
      some (⟨decide (z < 0), ofNat z.natAbs, none, none⟩, rest) := by
  have noPoint : ∀ tail, rest ≠ '.' :: tail := fun tail same => (closes _ tail same).2.1 rfl
  have spelled : Text.Digits.textInt z ++ rest =
      (if decide (z < 0) then ['-'] else []) ++ (Text.Digits.chars (ofNat z.natAbs) ++ rest) := by
    by_cases negative : z < 0 <;> simp [Text.Digits.textInt, Text.Digits.text, negative]
  rw [spelled]
  exact number?_eq (Text.Digits.isCanonical_ofNat _) _ closes.ends
    (DecimalText.frontFraction_of_not_point noPoint) (DecimalText.frontExponent_of_closes closes)

theorem numberValue_of_int {z : Int} (short : (ofNat z.natAbs).length ≤ maxRun) :
    numberValue ⟨decide (z < 0), ofNat z.natAbs, none, none⟩ = .ok (.int z) := by
  have small : ¬maxRun < (ofNat z.natAbs).length := Nat.not_lt.2 short
  by_cases negative : z < 0
  · simp [numberValue, DecimalText.isWhole, small, Text.Digits.value_ofNat, negative, abs_of_neg]
  · simp [numberValue, DecimalText.isWhole, small, Text.Digits.value_ofNat, negative,
      abs_of_nonneg (not_lt.1 negative)]

/-! ## Blanks and brackets -/

theorem skipSpace_cons {c : Char} (visible : isSpace c = false) (tail : List Char) :
    skipSpace (c :: tail) = c :: tail := by
  simp [skipSpace, visible]

theorem skipSpace_append {blanks : List Char} (blank : ∀ c ∈ blanks, isSpace c = true)
    (tail : List Char) : skipSpace (blanks ++ tail) = skipSpace tail :=
  List.dropWhile_append_of_pos blank

/-- A separator is a mark and blanks, which are passed over. -/
theorem Style.Readable.skipSpace_items (readable : style.Readable) :
    ∃ blanks, (∀ tail, skipSpace (style.itemSeparator ++ tail) = ',' :: (blanks ++ tail)) ∧
      ∀ tail, skipSpace (blanks ++ tail) = skipSpace tail := by
  obtain ⟨blanks, mark, blank⟩ := readable.items
  refine ⟨blanks, fun tail => ?_, skipSpace_append blank⟩
  rw [mark]
  exact skipSpace_cons (by decide) _

/-- Neither blanks nor a closing bracket are at the front of a value. -/
theorem Reads.front {levels : Nat} {text rest : List Char} {j : Json}
    (reads : Reads (value mark levels text) j rest) :
    skipSpace text = text ∧ ∀ tail, text ≠ ']' :: tail := by
  obtain ⟨shorter, read⟩ := reads
  cases levels with
  | zero => cases read
  | succ levels =>
    have broken (c : Char) (odd : isSpace c = true ∨ c = ']') (tail : List Char) :
        value mark (levels + 1) (c :: tail) = .error (.broken .value (tail.length + 1)) := by
      have named : c ∈ [' ', '\t', '\n', '\r', ']'] := by
        simpa [isSpace, or_assoc] using odd
      simp only [List.mem_cons, List.not_mem_nil, or_false] at named
      have noNumber : number? (c :: tail) = none := by
        rcases named with rfl | rfl | rfl | rfl | rfl <;>
          exact number?_eq_none (by decide) (by decide) tail
      rcases named with rfl | rfl | rfl | rfl | rfl <;> simp [value, scalar, noNumber]
    cases text with
    | nil => simp at shorter
    | cons c tail =>
      refine ⟨skipSpace_cons ?_ tail, ?_⟩
      · by_contra blank
        rw [broken c (.inl (by simpa using blank))] at read
        cases read
      · rintro _ ⟨⟩
        rw [broken ']' (.inr rfl)] at read
        cases read

/-! ## Items -/

variable {item : Reader} {text rest rest' : List Char}

theorem reads_items_close {read : List Json} (closed : skipSpace text = ']' :: rest) :
    Reads (items item read text) read.reverse rest := by
  rw [items]
  split
  · rename_i same
    cases same.symm.trans closed
    exact ⟨_, rfl⟩
  · rename_i same
    cases same.symm.trans closed
  · rename_i noBracket _
    exact absurd closed (noBracket _)

theorem reads_items_comma {read all : List Json} {j : Json} {behind : List Char}
    (parted : skipSpace text = ',' :: behind) (front : Reads (item (skipSpace behind)) j rest)
    (more : Reads (items item (j :: read) rest) all rest') :
    Reads (items item read text) all rest' := by
  obtain ⟨_, front⟩ := front
  obtain ⟨_, more⟩ := more
  rw [items]
  split
  · rename_i same
    cases same.symm.trans parted
  · rename_i same
    cases same.symm.trans parted
    simp only [front, more]
    exact ⟨_, rfl⟩
  · rename_i noComma
    exact absurd parted (noComma _)

theorem reads_array_empty (empty : skipSpace text = ']' :: rest) :
    Reads (array item text) [] rest := by
  rw [array]
  split
  · rename_i same
    cases same.symm.trans empty
    exact ⟨_, rfl⟩
  · rename_i noBracket
    exact absurd empty (noBracket _)

theorem reads_array_first {all : List Json} {j : Json}
    (opens : ∀ tail, skipSpace text ≠ ']' :: tail)
    (front : Reads (item (skipSpace text)) j rest) (more : Reads (items item [j] rest) all rest') :
    Reads (array item text) all rest' := by
  obtain ⟨_, front⟩ := front
  obtain ⟨_, more⟩ := more
  rw [array]
  split
  · rename_i same
    exact absurd same (opens _)
  · simp only [front, more]
    exact ⟨_, rfl⟩

/-! ## Arrays -/

/-- What is inside of some brackets is read, whatever goes on behind it. -/
def ReadsAll (style : Style) (mark : Char) (levels : Nat) (js : List Json) : Prop :=
  ∀ j ∈ js, ∀ rest, Closes rest → Reads (value mark levels (chars style j ++ rest)) j rest

theorem ReadsAll.later {levels : Nat} {j : Json} {js : List Json}
    (each : ReadsAll style mark levels (j :: js)) : ReadsAll style mark levels js :=
  fun j' member => each j' (List.mem_cons_of_mem _ member)

theorem itemChars_cons (style : Style) (j : Json) (js : List Json) :
    itemChars style (j :: js) =
      chars style j ++ js.flatMap fun j => style.itemSeparator ++ chars style j := by
  induction js generalizing j with
  | nil => simp [itemChars]
  | cons j' js ih =>
    rw [itemChars, ih, List.append_assoc]
    · simp
    · simp

/-- What follows is a separator or closes brackets. -/
theorem closes_flatMap {α : Type} (readable : style.Readable) (write : α → List Char)
    (later : List α) {c : Char} (separates : c ∈ [',', ']', '\x7d']) (rest : List Char) :
    Closes ((later.flatMap fun a => style.itemSeparator ++ write a) ++ c :: rest) := by
  obtain ⟨blanks, mark, _⟩ := readable.items
  cases later with
  | nil => exact closes_cons separates rest
  | cons a later =>
    rw [List.flatMap_cons, mark]
    exact closes_cons (by decide) _

theorem reads_items (readable : style.Readable) {levels : Nat} {js : List Json}
    (each : ReadsAll style mark levels js) (read : List Json) (rest : List Char) :
    Reads (items (value mark levels) read
        ((js.flatMap fun j => style.itemSeparator ++ chars style j) ++ ']' :: rest))
      (read.reverse ++ js) rest := by
  induction js generalizing read with
  | nil =>
    rw [List.append_nil]
    exact reads_items_close (skipSpace_cons (by decide) rest)
  | cons j js ih =>
    -- The reader collects the items in reverse.
    have others := ih each.later (j :: read)
    have closes := closes_flatMap (c := ']') readable (chars style) js (by decide) rest
    have front := each j List.mem_cons_self _ closes
    obtain ⟨blanks, parted, blank⟩ := readable.skipSpace_items
    rw [List.reverse_cons, List.append_assoc, List.singleton_append] at others
    rw [List.flatMap_cons, List.append_assoc, List.append_assoc]
    refine reads_items_comma (parted _) ?_ others
    rwa [blank, front.front.1]

theorem reads_array (readable : style.Readable) {levels : Nat} {js : List Json}
    (each : ReadsAll style mark levels js) (rest : List Char) :
    Reads (array (value mark levels) (itemChars style js ++ ']' :: rest)) js rest := by
  cases js with
  | nil => exact reads_array_empty (skipSpace_cons (by decide) rest)
  | cons j js =>
    have others := reads_items readable each.later [j] rest
    have closes := closes_flatMap (c := ']') readable (chars style) js (by decide) rest
    have front := each j List.mem_cons_self _ closes
    rw [itemChars_cons, List.append_assoc]
    refine reads_array_first ?_ ?_ others
    · rw [front.front.1]
      exact front.front.2
    · rwa [front.front.1]

theorem reads_arr (readable : style.Readable) {levels : Nat} {js : List Json}
    (each : ReadsAll style mark levels js) (rest : List Char) :
    Reads (value mark (levels + 1) (chars style (.arr js) ++ rest)) (.arr js) rest := by
  obtain ⟨_, read⟩ := reads_array readable each rest
  have spelled : chars style (.arr js) ++ rest = '[' :: (itemChars style js ++ ']' :: rest) := by
    simp [chars]
  rw [spelled, value]
  simp only [read]
  exact ⟨_, rfl⟩

/-! ## Objects -/

theorem assign_of_not_mem {name : String} {members : List (String × Json)}
    (new : name ∉ members.map Prod.fst) (j : Json) :
    assign name j members = members ++ [(name, j)] := by
  induction members with
  | nil => rfl
  | cons m members ih =>
    simp only [List.map_cons, List.mem_cons, not_or] at new
    rw [assign, if_neg (Ne.symm new.1), ih new.2, List.cons_append]

theorem reads_member {name : String} {j : Json} {behind : List Char}
    (front : Reads (item (skipSpace behind)) j rest) :
    Reads (member mark item (style.string name ++ ':' :: behind)) (name, j) rest := by
  obtain ⟨_, front⟩ := front
  have colon : skipSpace (':' :: behind) = ':' :: behind := skipSpace_cons (by decide) behind
  rw [string_append, member]
  obtain ⟨_, named⟩ := @reads_string style mark
    ((name.toList.flatMap style.char ++ '"' :: ':' :: behind).length + 1) name.toList
    (':' :: behind)
  simp only [named]
  split
  · rename_i same
    cases same.symm.trans colon
    simp only [front, String.ofList_toList]
    exact ⟨_, rfl⟩
  · rename_i noColon
    exact absurd colon (noColon _)

theorem reads_members_close {read : List (String × Json)}
    (closed : skipSpace text = '\x7d' :: rest) :
    Reads (members mark item read text) read rest := by
  rw [members]
  split
  · rename_i same
    cases same.symm.trans closed
    exact ⟨_, rfl⟩
  · rename_i same
    cases same.symm.trans closed
  · rename_i noBrace _
    exact absurd closed (noBrace _)

theorem reads_members_comma {read all : List (String × Json)} {name : String} {j : Json}
    {behind : List Char} (parted : skipSpace text = ',' :: behind)
    (front : Reads (member mark item (skipSpace behind)) (name, j) rest)
    (more : Reads (members mark item (assign name j read) rest) all rest') :
    Reads (members mark item read text) all rest' := by
  obtain ⟨_, front⟩ := front
  obtain ⟨_, more⟩ := more
  rw [members]
  split
  · rename_i same
    cases same.symm.trans parted
  · rename_i same
    cases same.symm.trans parted
    simp only [front, more]
    exact ⟨_, rfl⟩
  · rename_i noComma
    exact absurd parted (noComma _)

theorem reads_object_empty (empty : skipSpace text = '\x7d' :: rest) :
    Reads (object mark item text) [] rest := by
  rw [object]
  split
  · rename_i same
    cases same.symm.trans empty
    exact ⟨_, rfl⟩
  · rename_i noBrace
    exact absurd empty (noBrace _)

theorem reads_object_first {all : List (String × Json)} {name : String} {j : Json}
    (opens : ∀ tail, skipSpace text ≠ '\x7d' :: tail)
    (front : Reads (member mark item (skipSpace text)) (name, j) rest)
    (more : Reads (members mark item [(name, j)] rest) all rest') :
    Reads (object mark item text) all rest' := by
  obtain ⟨_, front⟩ := front
  obtain ⟨_, more⟩ := more
  rw [object]
  split
  · rename_i same
    exact absurd same (opens _)
  · simp only [front, more]
    exact ⟨_, rfl⟩

/-- A member as it is written. -/
def memberText (style : Style) (m : String × Json) : List Char :=
  style.string m.1 ++ style.nameSeparator ++ chars style m.2

theorem memberChars_cons (style : Style) (m : String × Json) (ms : List (String × Json)) :
    memberChars style (m :: ms) =
      memberText style m ++ ms.flatMap fun m => style.itemSeparator ++ memberText style m := by
  induction ms generalizing m with
  | nil => simp [memberChars, memberText]
  | cons m' ms ih =>
    rw [memberChars, ih]
    · simp [memberText]
    · simp

theorem skipSpace_memberText (m : String × Json) (tail : List Char) :
    skipSpace (memberText style m ++ tail) = memberText style m ++ tail :=
  skipSpace_cons (by decide) _

theorem reads_memberText (readable : style.Readable) {levels : Nat} {m : String × Json}
    (reads : Reads (value mark levels (chars style m.2 ++ rest)) m.2 rest) :
    Reads (member mark (value mark levels) (memberText style m ++ rest)) m rest := by
  obtain ⟨blanks, mark, blank⟩ := readable.names
  rw [memberText, List.append_assoc, List.append_assoc, mark, List.cons_append]
  refine reads_member ?_
  rwa [skipSpace_append blank, reads.front.1]

theorem reads_members (readable : style.Readable) {levels : Nat} {ms : List (String × Json)}
    (each : ReadsAll style mark levels (ms.map Prod.snd)) (read : List (String × Json))
    (distinct : ((read ++ ms).map Prod.fst).Nodup) (rest : List Char) :
    Reads (members mark (value mark levels) read
        ((ms.flatMap fun m => style.itemSeparator ++ memberText style m) ++ '\x7d' :: rest))
      (read ++ ms) rest := by
  induction ms generalizing read with
  | nil =>
    rw [List.append_nil]
    exact reads_members_close (skipSpace_cons (by decide) rest)
  | cons m ms ih =>
    -- Only a new name puts its member behind the others.
    have new : m.1 ∉ read.map Prod.fst := by
      rw [List.map_append, List.nodup_append] at distinct
      exact fun member => distinct.2.2 _ member _ (by simp) rfl
    have others := ih (ReadsAll.later each) (read ++ [m]) (by simpa using distinct)
    have closes := closes_flatMap (c := '\x7d') readable (memberText style) ms (by decide) rest
    have front := reads_memberText readable (each m.2 List.mem_cons_self _ closes)
    obtain ⟨blanks, parted, blank⟩ := readable.skipSpace_items
    rw [List.append_assoc, List.singleton_append] at others
    rw [List.flatMap_cons, List.append_assoc, List.append_assoc]
    refine reads_members_comma (parted _) ?_ (assign_of_not_mem new _ ▸ others)
    rwa [blank, skipSpace_memberText]

theorem reads_object (readable : style.Readable) {levels : Nat} {ms : List (String × Json)}
    (each : ReadsAll style mark levels (ms.map Prod.snd)) (distinct : (ms.map Prod.fst).Nodup)
    (rest : List Char) :
    Reads (object mark (value mark levels) (memberChars style ms ++ '\x7d' :: rest)) ms rest := by
  cases ms with
  | nil => exact reads_object_empty (skipSpace_cons (by decide) rest)
  | cons m ms =>
    have others := reads_members readable (ReadsAll.later each) [m] distinct rest
    have closes := closes_flatMap (c := '\x7d') readable (memberText style) ms (by decide) rest
    have front := reads_memberText readable (each m.2 List.mem_cons_self _ closes)
    rw [memberChars_cons, List.append_assoc]
    refine reads_object_first ?_ ?_ others
    · rw [skipSpace_memberText]
      rintro _ ⟨⟩
    · rwa [skipSpace_memberText]

theorem reads_obj (readable : style.Readable) {levels : Nat} {ms : List (String × Json)}
    (each : ReadsAll style mark levels (ms.map Prod.snd)) (distinct : (ms.map Prod.fst).Nodup)
    (rest : List Char) :
    Reads (value mark (levels + 1) (chars style (.obj ms) ++ rest)) (.obj ms) rest := by
  obtain ⟨_, read⟩ := reads_object readable each distinct rest
  have spelled : chars style (.obj ms) ++ rest =
      '\x7b' :: (memberChars style ms ++ '\x7d' :: rest) := by
    simp [chars]
  rw [spelled, value]
  simp only [read]
  exact ⟨_, rfl⟩

/-! ## Values -/

/-- A value that is written so that it is read again. -/
inductive Writable : Json → Prop where
  | null : Writable .null
  | bool (b : Bool) : Writable (.bool b)
  | int {z : Int} (short : (ofNat z.natAbs).length ≤ maxRun) : Writable (.int z)
  | float {x : Binary64} (finite : x.isFinite = true) : Writable (.float x)
  | str (s : String) : Writable (.str s)
  | arr {js : List Json} (each : ∀ j ∈ js, Writable j) : Writable (.arr js)
  | obj {ms : List (String × Json)} (distinct : (ms.map Prod.fst).Nodup)
    (each : ∀ j ∈ ms.map Prod.snd, Writable j) : Writable (.obj ms)

theorem length_chars_le_items {j : Json} {js : List Json} (member : j ∈ js) :
    (chars style j).length ≤ (itemChars style js).length := by
  obtain ⟨before, later, rfl⟩ := List.append_of_mem member
  cases before with
  | nil => simp [itemChars_cons]
  | cons j' before =>
    simp [itemChars_cons]
    omega

theorem length_chars_le_members {j : Json} {ms : List (String × Json)}
    (member : j ∈ ms.map Prod.snd) :
    (chars style j).length ≤ (memberChars style ms).length := by
  obtain ⟨m, found, rfl⟩ := List.mem_map.1 member
  obtain ⟨before, later, rfl⟩ := List.append_of_mem found
  cases before with
  | nil =>
    simp [memberChars_cons, memberText]
    omega
  | cons m' before =>
    simp [memberChars_cons, memberText]
    omega

theorem reads_chars (readable : style.Readable) {j : Json} (writable : Writable j) {levels : Nat}
    (enough : (chars style j).length ≤ levels) {rest : List Char} (closes : Closes rest) :
    Reads (value mark (levels + 1) (chars style j ++ rest)) j rest := by
  induction writable generalizing levels rest with
  | null => exact ⟨by simp [chars]; omega, by simp [chars, value, scalar]⟩
  | bool b => cases b <;> exact ⟨by simp [chars]; omega, by simp [chars, value, scalar]⟩
  | @int z short =>
    rw [chars]
    exact reads_number (fun rest closes =>
      ⟨_, number?_textInt z closes, numberValue_of_int short⟩) levels closes
  | @float x finite =>
    have written : floatChars x = NumberFormat.standard.chars x := by
      cases x with
      | finite => rfl
      | nan | infinite _ => cases finite
    rw [chars, written]
    refine reads_number (fun rest closes => ?_) levels closes
    obtain ⟨n, read, fraction, same⟩ := number?_chars .standard finite closes
    exact ⟨n, read, by simp [numberValue, fraction, same]⟩
  | str s => exact reads_str levels s rest
  | @arr js _ ih =>
    -- The brackets take two characters, so one level fewer is enough for the items.
    rw [chars, List.length_append, List.length_cons, List.length_singleton] at enough
    obtain ⟨inside, rfl⟩ : ∃ inside, levels = inside + 1 := ⟨levels - 1, by omega⟩
    refine reads_arr readable (fun j member rest closes => ?_) rest
    have := @length_chars_le_items style _ _ member
    exact ih j member (by omega) closes
  | @obj ms distinct _ ih =>
    rw [chars, List.length_append, List.length_cons, List.length_singleton] at enough
    obtain ⟨inside, rfl⟩ : ∃ inside, levels = inside + 1 := ⟨levels - 1, by omega⟩
    refine reads_obj readable (fun j member rest closes => ?_) distinct rest
    have := @length_chars_le_members style _ _ member
    exact ih j member (by omega) closes

/-! ## Whole texts -/

theorem ofChars?_chars (readable : style.Readable) {j : Json} (writable : Writable j) :
    ofChars? mark (chars style j) = .ok j := by
  have reads := @reads_chars style mark readable _ writable _ le_rfl _ closes_nil
  rw [List.append_nil] at reads
  obtain ⟨_, read⟩ : Reads (value mark ((chars style j).length + 1) (skipSpace (chars style j)))
      j [] := by
    rwa [reads.front.1]
  rw [ofChars?, read]
  rfl

/-- An object is read from a text as it was written. -/
theorem ofString?_render (readable : style.Readable) {ms : List (String × Json)}
    (writable : Writable (.obj ms)) :
    ofString? ((Json.obj ms).render style) = .ok (.obj ms) := by
  have read := @ofChars?_chars style Text.replacementMark readable _ writable
  have spelled : chars style (.obj ms) = '\x7b' :: (memberChars style ms ++ ['\x7d']) := by
    rw [chars, List.cons_append]
  have noMark : ('\x7b' : Char) ≠ byteOrderMark := by decide
  rw [ofString?, render, String.toList_ofList]
  rw [spelled] at read ⊢
  simp only [noMark, if_false, read]

/-- An object is read from the body of a message as it was written. -/
theorem readBytes?_render {ms : List (String × Json)} (writable : Writable (.obj ms)) :
    readBytes? mark (Text.utf8 ((Json.obj ms).render .compact)) = .ok (.obj ms) := by
  have text : Text.bodyChars? mark (Text.utf8 ((Json.obj ms).render .compact)) =
      some (chars .compact (.obj ms)) := by
    cases ms with
    | nil => exact Text.bodyChars?_utf8 (by decide) ⟨rfl, by decide⟩ ⟨rfl, by decide⟩ _
    | cons m ms =>
      rw [render, chars, memberChars_cons]
      exact Text.bodyChars?_utf8 (by decide) ⟨rfl, by decide⟩ ⟨rfl, by decide⟩ _
  rw [readBytes?, text]
  simp only [ofChars?_chars Style.readable_compact writable]

theorem ofBytes?_render {ms : List (String × Json)} (writable : Writable (.obj ms)) :
    ofBytes? (Text.utf8 ((Json.obj ms).render .compact)) = .ok (.obj ms) :=
  readBytes?_render writable

/-- What is written shows no half of a pair. -/
theorem unmarked_render {α : Type} (tell : Json → α) {ms : List (String × Json)}
    (writable : Writable (.obj ms)) :
    Unmarked tell (Text.utf8 ((Json.obj ms).render .compact)) := by
  rw [Unmarked, readBytes?_render writable, ofBytes?_render writable]

end Reckoner.Json
