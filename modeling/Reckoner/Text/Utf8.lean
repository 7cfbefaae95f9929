import Reckoner.Text.Units

/-!
# Lenient UTF-8

Reading bytes as characters when they may be damaged. Each longest run of bytes that begins a
character and does not complete it is replaced by one mark, and so is each byte that begins none.
-/

namespace Reckoner.Text

/-- A character of which some bytes were read. -/
structure Partial where
  /-- The bits so far. -/
  bits : Nat
  /-- The least next byte. -/
  least : Nat
  /-- The greatest next byte. -/
  greatest : Nat
  /-- The bytes that are needed after the next. -/
  more : Nat
  deriving DecidableEq, Repr

/-- A byte where a character may begin. Some first bytes restrict the second, so that no character
has two spellings and none is half of a pair or out of range. -/
def beginChar (b : Nat) : List Char × Option Partial :=
  if b < 0x80 then ([Char.ofNat b], none)
  else if 0xC2 ≤ b ∧ b ≤ 0xDF then ([], some ⟨b - 0xC0, 0x80, 0xBF, 0⟩)
  else if b = 0xE0 then ([], some ⟨0, 0xA0, 0xBF, 1⟩)
  else if b = 0xED then ([], some ⟨0xD, 0x80, 0x9F, 1⟩)
  else if 0xE1 ≤ b ∧ b ≤ 0xEF then ([], some ⟨b - 0xE0, 0x80, 0xBF, 1⟩)
  else if b = 0xF0 then ([], some ⟨0, 0x90, 0xBF, 2⟩)
  else if 0xF1 ≤ b ∧ b ≤ 0xF3 then ([], some ⟨b - 0xF0, 0x80, 0xBF, 2⟩)
  else if b = 0xF4 then ([], some ⟨4, 0x80, 0x8F, 2⟩)
  else ([replacementMark], none)

/-- The next byte: what it completes, and what is then begun. -/
def nextByte (begun : Option Partial) (b : Nat) : List Char × Option Partial :=
  match begun with
  | none => beginChar b
  | some p =>
    if p.least ≤ b ∧ b ≤ p.greatest then
      let bits := p.bits * 64 + b % 64
      match p.more with
      | 0 => ([Char.ofNat bits], none)
      | more + 1 => ([], some ⟨bits, 0x80, 0xBF, more⟩)
    else
      let (cs, begun) := beginChar b
      (replacementMark :: cs, begun)

def decodeFrom (begun : Option Partial) : List UInt8 → List Char
  | [] => if begun.isSome then [replacementMark] else []
  | b :: bytes =>
    let (cs, begun) := nextByte begun b.toNat
    cs ++ decodeFrom begun bytes

/-- The characters of bytes. -/
def decodeUtf8 (bytes : List UInt8) : List Char :=
  decodeFrom none bytes

end Reckoner.Text
