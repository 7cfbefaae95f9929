/-!
# Texts in wide units

A text can be laid out in units of one, two or four bytes, with the most or the least significant
byte of a unit first. Texts that open with characters of ASCII tell their layout by where their zero
bytes are, `Layout.ofBytes`.

In units of two bytes, a character beyond sixteen bits takes a pair of units. A half of a pair can
stand by itself, and is no character then. In its place a mark is read, which the reader is told. So
what shows such a half reads differently with `replacementMark` and with `otherMark`.
-/

namespace Reckoner.Text

/-! ## Characters of units -/

/-- The mark in place of what is no character. -/
def replacementMark : Char := '\ufffd'

/-- A mark that differs from it. -/
def otherMark : Char := '\ufffc'

def isHighUnit (n : Nat) : Bool := 0xD800 ≤ n && n < 0xDC00

def isLowUnit (n : Nat) : Bool := 0xDC00 ≤ n && n < 0xE000

/-- The character of a single unit. A half of a pair has none. -/
def unitChar (mark : Char) (n : Nat) : Char :=
  if isHighUnit n || isLowUnit n then mark else Char.ofNat n

def pairChar (high low : Nat) : Char :=
  Char.ofNat (0x10000 + (high - 0xD800) * 0x400 + (low - 0xDC00))

def chars16 (mark : Char) : List Nat → List Char
  | [] => []
  | [unit] => [unitChar mark unit]
  | high :: low :: units =>
    if isHighUnit high && isLowUnit low then pairChar high low :: chars16 mark units
    else unitChar mark high :: chars16 mark (low :: units)

/-- The characters of units of four bytes, if all of them are in range. -/
def chars32? (mark : Char) (units : List Nat) : Option (List Char) :=
  if units.all (· ≤ 0x10FFFF) then some (units.map (unitChar mark)) else none

/-! ## Units of bytes -/

def bytesValue (bigEnd : Bool) (bytes : List UInt8) : Nat :=
  (if bigEnd then bytes else bytes.reverse).foldl (fun n b => 256 * n + b.toNat) 0

/-- The units of two bytes that bytes make up, unless one is left over. -/
def units16? (bigEnd : Bool) : List UInt8 → Option (List Nat)
  | [] => some []
  | a :: b :: bytes => (units16? bigEnd bytes).map (bytesValue bigEnd [a, b] :: ·)
  | _ => none

/-- The units of four bytes that bytes make up, unless some are left over. -/
def units32? (bigEnd : Bool) : List UInt8 → Option (List Nat)
  | [] => some []
  | a :: b :: c :: d :: bytes =>
    (units32? bigEnd bytes).map (bytesValue bigEnd [a, b, c, d] :: ·)
  | _ => none

/-! ## Layouts -/

inductive Layout where
  /-- A character of ASCII takes one byte. -/
  | narrow
  /-- Units of two bytes. -/
  | wide16 (bigEnd : Bool)
  /-- Units of four bytes. -/
  | wide32 (bigEnd : Bool)
  deriving DecidableEq, Repr

/-- The layout of a text that opens with two characters of ASCII, or is one. Nothing is told by one
byte or by three. -/
def Layout.ofBytes : List UInt8 → Layout
  | [a, b] => if a = 0 then wide16 true else if b = 0 then wide16 false else narrow
  | a :: b :: c :: d :: _ =>
    if a = 0 then (if b = 0 then wide32 true else wide16 true)
    else if b = 0 then (if c = 0 ∧ d = 0 then wide32 false else wide16 false)
    else narrow
  | _ => narrow

end Reckoner.Text
