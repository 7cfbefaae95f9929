import Reckoner.Json.Reader

/-!
# Reading JSON from bytes

The body of a message is bytes, and its first bytes tell how its text is laid out: by a byte-order
mark, or else by where the zeros are. Bytes that are not laid out so are no text.

Narrow text is UTF-8. Halves of a pair are let through in every layout, one by one. A mark is read
for each of them, and what does not depend on the mark is `Unmarked`.
-/

namespace Reckoner

namespace Text

/-! ## UTF-8 -/

/-- What the first byte of a character tells: how many bytes follow, its own bits, and the least
number that takes so many bytes. -/
def firstByte? (b : Nat) : Option (Nat × Nat × Nat) :=
  if b < 0x80 then some (0, b, 0)
  else if b < 0xC0 then none
  else if b < 0xE0 then some (1, b - 0xC0, 0x80)
  else if b < 0xF0 then some (2, b - 0xE0, 0x800)
  else if b < 0xF8 then some (3, b - 0xF0, 0x10000)
  else none

/-- Adds the bits of the bytes that follow a first one. -/
def followingBytes? : Nat → Nat → List UInt8 → Option (Nat × List UInt8)
  | 0, bits, bytes => some (bits, bytes)
  | more + 1, bits, b :: bytes =>
    if 0x80 ≤ b.toNat ∧ b.toNat < 0xC0 then
      followingBytes? more (bits * 64 + (b.toNat - 0x80)) bytes
    else none
  | _ + 1, _, [] => none

/-- The number of the character at the front of some bytes, and the bytes behind it. -/
def frontNumber? (b : UInt8) (bytes : List UInt8) : Option (Nat × List UInt8) :=
  match firstByte? b.toNat with
  | none => none
  | some (more, bits, least) =>
    match followingBytes? more bits bytes with
    | none => none
    | some (n, rest) => if least ≤ n ∧ n ≤ 0x10FFFF then some (n, rest) else none

theorem length_followingBytes? {more bits n : Nat} {bytes rest : List UInt8}
    (read : followingBytes? more bits bytes = some (n, rest)) : rest.length ≤ bytes.length := by
  fun_induction followingBytes? more bits bytes with
  | case1 => cases read; exact Nat.le_refl _
  | case2 _ _ _ _ _ ih => exact Nat.le_succ_of_le (ih read)
  | case3 | case4 => cases read

theorem length_frontNumber? {b : UInt8} {bytes rest : List UInt8} {n : Nat}
    (read : frontNumber? b bytes = some (n, rest)) : rest.length ≤ bytes.length := by
  unfold frontNumber? at read
  split at read
  · cases read
  · split at read
    · cases read
    · rename_i followed
      split at read
      · cases read
        exact length_followingBytes? followed
      · cases read

def utf8Chars? (mark : Char) : List UInt8 → Option (List Char)
  | [] => some []
  | b :: bytes =>
    match _h : frontNumber? b bytes with
    | none => none
    | some (n, rest) =>
      have := length_frontNumber? _h
      (utf8Chars? mark rest).map (unitChar mark n :: ·)
termination_by bytes => bytes.length

/-! ## Layouts -/

/-- The layout that bytes show, and the bytes behind a byte-order mark. -/
def Layout.ofMarked : List UInt8 → Layout × List UInt8
  | 0x00 :: 0x00 :: 0xFE :: 0xFF :: bytes => (wide32 true, bytes)
  | 0xFF :: 0xFE :: 0x00 :: 0x00 :: bytes => (wide32 false, bytes)
  | 0xFE :: 0xFF :: bytes => (wide16 true, bytes)
  | 0xFF :: 0xFE :: bytes => (wide16 false, bytes)
  | 0xEF :: 0xBB :: 0xBF :: bytes => (narrow, bytes)
  | bytes => (ofBytes bytes, bytes)

def Layout.chars? (mark : Char) : Layout → List UInt8 → Option (List Char)
  | narrow, bytes => utf8Chars? mark bytes
  | wide16 bigEnd, bytes => (units16? bigEnd bytes).map (chars16 mark)
  | wide32 bigEnd, bytes => (units32? bigEnd bytes).bind (chars32? mark)

/-- The characters of the body of a message. -/
def bodyChars? (mark : Char) (body : List UInt8) : Option (List Char) :=
  let (layout, bytes) := Layout.ofMarked body
  layout.chars? mark bytes

example : bodyChars? '?' [0xFF, 0xFE, 0x31, 0x00] = some ['1'] := by decide +kernel
example : bodyChars? '?' [0xEF, 0xBB, 0xBF, 0xC3, 0xA9] = some ['é'] := by decide +kernel
example : bodyChars? '?' [0xC0, 0x80] = none := by decide +kernel
example : bodyChars? '?' [0xED, 0xA0, 0x80] = some ['?'] := by decide +kernel

/-- Whether bytes are a text in UTF-8 without a half of a pair. -/
def isUtf8 (bytes : List UInt8) : Bool :=
  match utf8Chars? replacementMark bytes with
  | none => false
  | some text => utf8Chars? otherMark bytes == some text

def utf8 (text : String) : List UInt8 :=
  text.toList.flatMap String.utf8EncodeChar

end Text

namespace Json

inductive BodyError where
  /-- The bytes are no text in the layout that the first of them show. -/
  | layout
  | content (e : ReadError)
  deriving DecidableEq, Repr

/-- The value of the body of a message, with a mark for each half of a pair by itself. -/
def readBytes? (mark : Char) (body : List UInt8) : Except BodyError Json :=
  match Text.bodyChars? mark body with
  | none => .error .layout
  | some text =>
    match ofChars? mark text with
    | .error e => .error (.content e)
    | .ok j => .ok j

def ofBytes? (body : List UInt8) : Except BodyError Json :=
  readBytes? Text.replacementMark body

/-- What is told of the value of a body does not depend on the mark, so that it shows no half of a
pair by itself. -/
def Unmarked {α : Type} (tell : Json → α) (body : List UInt8) : Prop :=
  (readBytes? Text.otherMark body).toOption.map tell = (ofBytes? body).toOption.map tell

instance {α : Type} [DecidableEq α] (tell : Json → α) (body : List UInt8) :
    Decidable (Unmarked tell body) :=
  inferInstanceAs (Decidable (_ = _))

end Json

end Reckoner
