import Reckoner.Text.Digits

/-!
# Digits of all scripts

The decimal digits of the wider alphabet. They stand in blocks of ten, in order, so the characters
of the zeros say it all. The ten characters of ASCII are the first block.
-/

namespace Reckoner.Text

/-- The zeros of the blocks of decimal digits. -/
def scriptZeros : List Nat :=
  [0x30, 0x660, 0x6F0, 0x7C0, 0x966, 0x9E6, 0xA66, 0xAE6, 0xB66, 0xBE6, 0xC66, 0xCE6, 0xD66, 0xDE6,
    0xE50, 0xED0, 0xF20, 0x1040, 0x1090, 0x17E0, 0x1810, 0x1946, 0x19D0, 0x1A80, 0x1A90, 0x1B50,
    0x1BB0, 0x1C40, 0x1C50, 0xA620, 0xA8D0, 0xA900, 0xA9D0, 0xA9F0, 0xAA50, 0xABF0, 0xFF10, 0x104A0,
    0x10D30, 0x11066, 0x110F0, 0x11136, 0x111D0, 0x112F0, 0x11450, 0x114D0, 0x11650, 0x116C0,
    0x11730, 0x118E0, 0x11950, 0x11C50, 0x11D50, 0x11DA0, 0x16A60, 0x16AC0, 0x16B50, 0x1D7CE,
    0x1D7D8, 0x1D7E2, 0x1D7EC, 0x1D7F6, 0x1E140, 0x1E2F0, 0x1E950, 0x1FBF0]

/-- The digit that a character stands for in a block with a given zero. -/
def digitFrom? (first : Nat) (c : Char) : Option Digit :=
  if h : first ≤ c.toNat ∧ c.toNat < first + 10 then some ⟨c.toNat - first, by omega⟩ else none

def scriptDigit? (c : Char) : Option Digit :=
  scriptZeros.findSome? (digitFrom? · c)

/-- Digits of ASCII are digits of a script, with the same value. -/
theorem scriptDigit?_of_ofChar? {c : Char} {d : Digit} (h : Digit.ofChar? c = some d) :
    scriptDigit? c = some d := by
  have : digitFrom? 0x30 c = Digit.ofChar? c := rfl
  rw [scriptDigit?, scriptZeros, List.findSome?_cons, this, h]

end Reckoner.Text
