import Reckoner.Json.Writer
import Reckoner.Proofs.Text.Decimal

/-!
# Graphic texts

A text is graphic if it has blanks and marks of ASCII only, so nothing in it ends a line or moves on
to another one. Numbers are written so, and every JSON value is if all else is escaped,
`Json.graphic_chars`: a character that is not graphic becomes a letter or hexadecimal digits.
-/

namespace Reckoner

namespace Text

/-- The blank or a mark of ASCII. -/
def IsGraphic (c : Char) : Prop :=
  0x20 ≤ c.toNat ∧ c.toNat < 0x7F

instance (c : Char) : Decidable (IsGraphic c) :=
  inferInstanceAs (Decidable (_ ∧ _))

/-- A text of graphic characters. -/
def Graphic (text : List Char) : Prop :=
  ∀ c ∈ text, IsGraphic c

-- The characters of the text are looked at, not all that there are.
instance (text : List Char) : Decidable (Graphic text) :=
  List.decidableBAll IsGraphic text

@[simp] theorem graphic_nil : Graphic [] := nofun

@[simp] theorem graphic_cons {c : Char} {text : List Char} :
    Graphic (c :: text) ↔ IsGraphic c ∧ Graphic text := by
  simp [Graphic]

@[simp] theorem graphic_append {text more : List Char} :
    Graphic (text ++ more) ↔ Graphic text ∧ Graphic more := by
  simp only [Graphic, List.mem_append, or_imp, forall_and]

theorem Graphic.notMem_lineFeed {text : List Char} (graphic : Graphic text) : '\n' ∉ text :=
  fun member => absurd (graphic _ member) (by decide)

theorem graphic_flatMap {α : Type} {write : α → List Char} (written : ∀ a, Graphic (write a))
    (as : List α) : Graphic (as.flatMap write) := by
  intro c member
  obtain ⟨a, _, member⟩ := List.mem_flatMap.1 member
  exact written a c member

theorem graphic_replicate {c : Char} (graphic : IsGraphic c) (n : Nat) :
    Graphic (List.replicate n c) := by
  intro c' member
  rwa [List.eq_of_mem_replicate member]

/-! ## Numbers -/

namespace Digits

theorem graphic_chars (ds : List Digit) : Graphic (chars ds) := by
  intro c member
  obtain ⟨d, _, rfl⟩ := List.mem_map.1 member
  have each : ∀ d : Digit, IsGraphic d.toChar := by decide
  exact each d

theorem graphic_text (n : Nat) : Graphic (text n) :=
  graphic_chars _

theorem graphic_textInt (z : Int) : Graphic (textInt z) := by
  have sign : IsGraphic '-' := by decide
  unfold textInt
  split <;> simp [sign, graphic_text]

end Digits

theorem graphic_hexDigit {n : Nat} (small : n < 16) : IsGraphic (hexDigit n) := by
  have each : ∀ n : Fin 16, IsGraphic (hexDigit n) := by decide
  exact each ⟨n, small⟩

theorem graphic_hex (width n : Nat) : Graphic (hex width n) := by
  induction width generalizing n with
  | zero => exact graphic_nil
  | succ width ih => simp [hex, ih, graphic_hexDigit (Nat.mod_lt n (by decide : 0 < 16))]

end Text

open Text (Graphic IsGraphic graphic_replicate)
open Text.Digits (graphic_chars graphic_text)

namespace NumberFormat

theorem graphic_positional (ds : List Text.Digit) (exponent : Int) :
    Graphic (positional ds exponent) := by
  have zero : IsGraphic '0' := by decide
  have point : IsGraphic '.' := by decide
  unfold positional
  split
  · simp [zero, point, graphic_replicate, graphic_chars]
  · dsimp only
    split <;> simp [zero, point, graphic_replicate, graphic_chars]

theorem graphic_scientific (format : NumberFormat) (ds : List Text.Digit) (exponent : Int) :
    Graphic (format.scientific ds exponent) := by
  have zero : IsGraphic '0' := by decide
  have point : IsGraphic '.' := by decide
  have letter : IsGraphic 'e' := by decide
  have sign : IsGraphic (if exponent < 0 then '-' else '+') := by split <;> decide
  have digits := graphic_chars ds
  unfold scientific
  generalize Text.Digits.chars ds = text at digits
  rcases text with _ | ⟨first, _ | ⟨second, rest⟩⟩ <;>
    simp_all [graphic_replicate, graphic_text]

theorem graphic_chars (format : NumberFormat) (x : Binary64) : Graphic (format.chars x) := by
  have name : Graphic ['n', 'a', 'n'] ∧ Graphic ['i', 'n', 'f'] := by decide
  have sign (negative : Bool) : Graphic (if negative then ['-'] else []) := by
    cases negative <;> decide
  unfold chars
  split
  · exact name.1
  · exact Text.graphic_append.2 ⟨sign _, name.2⟩
  · rw [Text.graphic_append]
    refine ⟨sign _, ?_⟩
    split
    · decide
    · unfold decimal
      dsimp only
      split
      · exact graphic_positional _ _
      · exact graphic_scientific _ _ _

end NumberFormat

/-! ## JSON -/

namespace Json

theorem graphic_unitEscape (n : Nat) : Graphic (unitEscape n) := by
  have opening : Graphic ['\\', 'u'] := by decide
  simp only [unitEscape, Text.graphic_append]
  exact ⟨opening, Text.graphic_hex 4 n⟩

theorem graphic_charEscape (c : Char) : Graphic (charEscape c) := by
  unfold charEscape
  split <;> simp [graphic_unitEscape]

/-- Whatever is not graphic is escaped. -/
theorem graphic_char (c : Char) : Graphic (Style.spaced.char c) := by
  unfold Style.char
  split
  · rename_i mark
    rcases mark with rfl | rfl <;> decide
  iterate 5
    split
    · decide
  split
  · exact graphic_charEscape c
  split
  · exact graphic_charEscape c
  · rename_i large narrow
    have narrow : ¬0x7F ≤ c.toNat := fun wide => narrow ⟨rfl, wide⟩
    simp only [Text.graphic_cons, Text.graphic_nil, and_true]
    exact ⟨Nat.le_of_not_lt large, Nat.lt_of_not_le narrow⟩

theorem graphic_string (s : String) : Graphic (Style.spaced.string s) := by
  have mark : IsGraphic '"' := by decide
  simp [Style.string, mark, Text.graphic_flatMap graphic_char]

theorem graphic_floatChars (x : Binary64) : Graphic (floatChars x) := by
  cases x with
  | nan => decide
  | infinite negative => cases negative <;> decide
  | finite negative units fits =>
    exact NumberFormat.graphic_chars .standard (.finite negative units fits)

mutual

theorem graphic_chars : (j : Json) → Graphic (chars .spaced j)
  | null | bool true | bool false => by decide
  | int z => Text.Digits.graphic_textInt z
  | float x => graphic_floatChars x
  | str s => graphic_string s
  | arr items => by
    have brackets : IsGraphic '[' ∧ IsGraphic ']' := by decide
    simp [chars, brackets, graphic_itemChars items]
  | obj members => by
    have braces : IsGraphic '\x7b' ∧ IsGraphic '\x7d' := by decide
    simp [chars, braces, graphic_memberChars members]

theorem graphic_itemChars : (items : List Json) → Graphic (itemChars .spaced items)
  | [] => Text.graphic_nil
  | [item] => graphic_chars item
  | item :: other :: items => by
    have separator : Graphic Style.spaced.itemSeparator := by decide
    simp [itemChars, separator, graphic_chars item, graphic_itemChars (other :: items)]

theorem graphic_memberChars :
    (members : List (String × Json)) → Graphic (memberChars .spaced members)
  | [] => Text.graphic_nil
  | [(name, value)] => by
    have separator : Graphic Style.spaced.nameSeparator := by decide
    simp [memberChars, separator, graphic_string name, graphic_chars value]
  | (name, value) :: other :: members => by
    have separators :
        Graphic Style.spaced.nameSeparator ∧ Graphic Style.spaced.itemSeparator := by decide
    simp [memberChars, separators, graphic_string name, graphic_chars value,
      graphic_memberChars (other :: members)]

end

end Json

end Reckoner
