import Reckoner.Json.Basic
import Reckoner.Binary64.Text
import Reckoner.Text.Hex
import Reckoner.Text.Units

/-!
# Reading JSON text

A value is read with blanks around it and nothing else behind it. Besides the numbers of the format,
`NaN`, `Infinity` and `-Infinity` are read, and the last of several members of one name counts. A
number with a point or an exponent is a floating-point number; any other is an integer.

A reader hands back fewer characters than it was given. What stands inside an array or object is
read by a reader one level further down; a text of `n` characters has fewer than `n` levels. Readers
of strings are told which mark stands for a half of a pair by itself.
-/

namespace Reckoner.Json

open Text (isHighUnit isLowUnit unitChar pairChar)

/-! ## Errors -/

/-- Why a text is not JSON. -/
inductive Cause where
  | value
  | name
  | nameSeparator
  | itemSeparator
  | unterminatedString
  | controlCharacter
  | escape
  | unitEscape
  | trailingText
  | byteOrderMark
  deriving DecidableEq, Repr

def Cause.message : Cause → String
  | value => "Expecting value"
  | name => "Expecting property name enclosed in double quotes"
  | nameSeparator => "Expecting ':' delimiter"
  | itemSeparator => "Expecting ',' delimiter"
  | unterminatedString => "Unterminated string starting at"
  | controlCharacter => "Invalid control character at"
  | escape => "Invalid \\escape"
  | unitEscape => "Invalid \\uXXXX escape"
  | trailingText => "Extra data"
  | byteOrderMark => "Unexpected UTF-8 BOM (decode using utf-8-sig)"

/-- Where and why reading stops. While a text is read, a place is told by what is left there. -/
inductive Stop where
  /-- The text breaks the rules of the format where so many characters are left. -/
  | broken (cause : Cause) (left : Nat)
  /-- An integer has too many digits to be read. -/
  | longInteger (digits : Nat)
  deriving DecidableEq, Repr

inductive ReadError where
  | broken (cause : Cause) (position line column : Nat)
  | longInteger (digits : Nat)
  deriving DecidableEq, Repr

/-- The wording of an error. Positions count from zero, lines and columns from one. -/
def ReadError.message : ReadError → String
  | broken cause position line column =>
    s!"{cause.message}: line {line} column {column} (char {position})"
  | longInteger digits =>
    s!"Exceeds the limit ({Text.Digits.maxRun} digits) for integer string conversion: value has " ++
      s!"{digits} digits; use sys.set_int_max_str_digits() to increase the limit"

/-- Places a stop in the text that was read. -/
def Stop.inText (text : List Char) : Stop → ReadError
  | broken cause left =>
    let before := text.take (text.length - left)
    let column := (before.reverse.takeWhile (· ≠ '\n')).length + 1
    .broken cause before.length (before.count '\n' + 1) column
  | longInteger digits => .longInteger digits

/-! ## Readers -/

/-- What reading at the front of a text gives, with the rest of the text. -/
abbrev Reading (α : Type) (text : List Char) :=
  Except Stop (α × { rest : List Char // rest.length < text.length })

abbrev Reader := (text : List Char) → Reading Json text

def isSpace (c : Char) : Bool :=
  c == ' ' || c == '\t' || c == '\n' || c == '\r'

def skipSpace (text : List Char) : List Char :=
  text.dropWhile isSpace

theorem length_skipSpace_le (text : List Char) : (skipSpace text).length ≤ text.length := by
  unfold skipSpace
  induction text with
  | nil => simp
  | cons c text ih =>
    rw [List.dropWhile_cons]
    split
    · exact Nat.le_succ_of_le ih
    · exact Nat.le_refl _

theorem length_of_skipSpace {text : List Char} {c : Char} {rest : List Char}
    (h : skipSpace text = c :: rest) : rest.length < text.length := by
  have := length_skipSpace_le text
  simp only [h, List.length_cons] at this
  omega

/-! ## Strings -/

/-- The sixteen-bit unit of four hexadecimal digits. -/
def unit? (a b c d : Char) : Option Nat := do
  let a ← Text.hexValue? a
  let b ← Text.hexValue? b
  let c ← Text.hexValue? c
  let d ← Text.hexValue? d
  return ((a * 16 + b) * 16 + c) * 16 + d

/-- The character of an escape of one letter. -/
def escaped? (c : Char) : Option Char :=
  match c with
  | '"' => some '"'
  | '\\' => some '\\'
  | '/' => some '/'
  | 'b' => some '\x08'
  | 'f' => some '\x0c'
  | 'n' => some '\n'
  | 'r' => some '\r'
  | 't' => some '\t'
  | _ => none

/-- What stands at the front of the inside of a string. -/
inductive Piece where
  | close
  | char (c : Char)

/-- Reads the second unit of a pair, if its escape is at the front. The four digits of a unit must
be followed by something, at least the closing mark. -/
def secondUnit (text : List Char) :
    Except Stop (Option (Nat × { rest : List Char // rest.length < text.length })) :=
  match text with
  | '\\' :: 'u' :: a :: b :: c :: d :: e :: rest =>
    match unit? a b c d with
    | none => .error (.broken .unitEscape (rest.length + 6))
    | some low =>
      if isLowUnit low then
        .ok (some (low, ⟨e :: rest, by simp only [List.length_cons]; omega⟩))
      else .ok none
  | _ => .ok none

section Strings

variable (mark : Char)

/-- Reads one piece of a string whose opening mark had `opening` characters left. -/
def piece (opening : Nat) (text : List Char) : Reading Piece text :=
  match text with
  | [] => .error (.broken .unterminatedString opening)
  | '"' :: rest => .ok (.close, ⟨rest, Nat.lt_succ_self _⟩)
  | '\\' :: 'u' :: a :: b :: c :: d :: e :: rest =>
    match unit? a b c d with
    | none => .error (.broken .unitEscape (rest.length + 6))
    | some unit =>
      match if isHighUnit unit then secondUnit (e :: rest) else .ok none with
      | .error stop => .error stop
      | .ok none =>
        .ok (.char (unitChar mark unit), ⟨e :: rest, by simp only [List.length_cons]; omega⟩)
      | .ok (some (low, ⟨rest', h⟩)) =>
        .ok (.char (pairChar unit low), ⟨rest', by simp only [List.length_cons] at *; omega⟩)
  | '\\' :: 'u' :: rest => .error (.broken .unitEscape (rest.length + 1))
  | ['\\'] => .error (.broken .unterminatedString opening)
  | '\\' :: c :: rest =>
    match escaped? c with
    | some c => .ok (.char c, ⟨rest, by simp only [List.length_cons]; omega⟩)
    | none => .error (.broken .escape (rest.length + 2))
  | c :: rest =>
    if c.toNat < 0x20 then .error (.broken .controlCharacter (rest.length + 1))
    else .ok (.char c, ⟨rest, Nat.lt_succ_self _⟩)

/-- Reads the inside of a string and its closing mark. -/
def string (opening : Nat) (text : List Char) : Reading (List Char) text :=
  match piece mark opening text with
  | .error e => .error e
  | .ok (.close, rest) => .ok ([], rest)
  | .ok (.char c, ⟨rest, h⟩) =>
    match string opening rest with
    | .error e => .error e
    | .ok (cs, ⟨rest', h'⟩) => .ok (c :: cs, ⟨rest', Nat.lt_trans h' h⟩)
termination_by text.length

end Strings

/-! ## Numbers -/

/-- A number at the front of a text, and the rest of the text. -/
def number? (text : List Char) : Option (DecimalText × List Char) :=
  let (negative, unsigned) :=
    match text with
    | '-' :: rest => (true, rest)
    | _ => (false, text)
  match Text.Digits.split unsigned with
  | ([], _) => none
  | (d :: ds, rest) =>
    -- A leading zero stands alone.
    let (whole, rest) := if d.val = 0 then ([d], unsigned.drop 1) else (d :: ds, rest)
    let (fraction?, rest) := DecimalText.frontFraction rest
    let (exponent?, rest) := DecimalText.frontExponent rest
    some (⟨negative, whole, fraction?, exponent?⟩, rest)

def numberValue (n : DecimalText) : Except Stop Json :=
  if n.isWhole then
    if Text.Digits.maxRun < n.whole.length then .error (.longInteger n.whole.length)
    else
      let magnitude := Text.Digits.value n.whole
      .ok (.int (if n.negative then -magnitude else magnitude))
  else .ok (.float n.toBinary64)

/-! ## Values -/

/-- Reads on behind the first item of an array, up to its closing bracket. -/
def items (item : Reader) (read : List Json) (text : List Char) : Reading (List Json) text :=
  match _h : skipSpace text with
  | ']' :: rest => .ok (read.reverse, ⟨rest, length_of_skipSpace _h⟩)
  | ',' :: rest =>
    match item (skipSpace rest) with
    | .error e => .error e
    | .ok (value, ⟨rest', h'⟩) =>
      have := length_of_skipSpace _h
      have := length_skipSpace_le rest
      match items item (value :: read) rest' with
      | .error e => .error e
      | .ok (values, ⟨rest'', h''⟩) => .ok (values, ⟨rest'', by omega⟩)
  | other => .error (.broken .itemSeparator other.length)
termination_by text.length

/-- Reads an array behind its opening bracket. -/
def array (item : Reader) (text : List Char) : Reading (List Json) text :=
  match _h : skipSpace text with
  | ']' :: rest => .ok ([], ⟨rest, length_of_skipSpace _h⟩)
  | other =>
    match item other with
    | .error e => .error e
    | .ok (value, ⟨rest, h⟩) =>
      have := _h ▸ length_skipSpace_le text
      match items item [value] rest with
      | .error e => .error e
      | .ok (values, ⟨rest', h'⟩) => .ok (values, ⟨rest', by omega⟩)

/-- Reads a member: a name in quotation marks, a colon and a value. -/
def member (mark : Char) (item : Reader) (text : List Char) : Reading (String × Json) text :=
  match text with
  | '"' :: inside =>
    match string mark (inside.length + 1) inside with
    | .error e => .error e
    | .ok (name, ⟨rest, h⟩) =>
      match _h : skipSpace rest with
      | ':' :: behind =>
        match item (skipSpace behind) with
        | .error e => .error e
        | .ok (value, ⟨rest', h'⟩) =>
          have := length_of_skipSpace _h
          have := length_skipSpace_le behind
          .ok ((String.ofList name, value), ⟨rest', by simp only [List.length_cons]; omega⟩)
      | other => .error (.broken .nameSeparator other.length)
  | other => .error (.broken .name other.length)

/-- Reads on behind the first member of an object, up to its closing brace. -/
def members (mark : Char) (item : Reader) (read : List (String × Json)) (text : List Char) :
    Reading (List (String × Json)) text :=
  match _h : skipSpace text with
  | '}' :: rest => .ok (read, ⟨rest, length_of_skipSpace _h⟩)
  | ',' :: rest =>
    match member mark item (skipSpace rest) with
    | .error e => .error e
    | .ok ((name, value), ⟨rest', h'⟩) =>
      have := length_of_skipSpace _h
      have := length_skipSpace_le rest
      match members mark item (assign name value read) rest' with
      | .error e => .error e
      | .ok (all, ⟨rest'', h''⟩) => .ok (all, ⟨rest'', by omega⟩)
  | other => .error (.broken .itemSeparator other.length)
termination_by text.length

/-- Reads an object behind its opening brace. -/
def object (mark : Char) (item : Reader) (text : List Char) : Reading (List (String × Json)) text :=
  match _h : skipSpace text with
  | '}' :: rest => .ok ([], ⟨rest, length_of_skipSpace _h⟩)
  | other =>
    match member mark item other with
    | .error e => .error e
    | .ok ((name, value), ⟨rest, h⟩) =>
      have := _h ▸ length_skipSpace_le text
      match members mark item [(name, value)] rest with
      | .error e => .error e
      | .ok (all, ⟨rest', h'⟩) => .ok (all, ⟨rest', by omega⟩)

/-- Reads a value that is neither a string, an array nor an object. -/
def scalar (text : List Char) : Reading Json text :=
  match text with
  | 'n' :: 'u' :: 'l' :: 'l' :: rest => .ok (.null, ⟨rest, by simp only [List.length_cons]; omega⟩)
  | 't' :: 'r' :: 'u' :: 'e' :: rest =>
    .ok (.bool true, ⟨rest, by simp only [List.length_cons]; omega⟩)
  | 'f' :: 'a' :: 'l' :: 's' :: 'e' :: rest =>
    .ok (.bool false, ⟨rest, by simp only [List.length_cons]; omega⟩)
  | 'N' :: 'a' :: 'N' :: rest => .ok (.float .nan, ⟨rest, by simp only [List.length_cons]; omega⟩)
  | 'I' :: 'n' :: 'f' :: 'i' :: 'n' :: 'i' :: 't' :: 'y' :: rest =>
    .ok (.float (.infinite false), ⟨rest, by simp only [List.length_cons]; omega⟩)
  | '-' :: 'I' :: 'n' :: 'f' :: 'i' :: 'n' :: 'i' :: 't' :: 'y' :: rest =>
    .ok (.float (.infinite true), ⟨rest, by simp only [List.length_cons]; omega⟩)
  | text =>
    match number? text with
    | none => .error (.broken .value text.length)
    | some (n, rest) =>
      match numberValue n with
      | .error e => .error e
      | .ok value =>
        if h : rest.length < text.length then .ok (value, ⟨rest, h⟩)
        else .error (.broken .value text.length)

/-- Reads a value with a number of levels left for what is inside it. -/
def value (mark : Char) : (levels : Nat) → Reader
  | 0, text => .error (.broken .value text.length)
  | levels + 1, text =>
    match text with
    | '"' :: inside =>
      match string mark (inside.length + 1) inside with
      | .error e => .error e
      | .ok (cs, ⟨rest, h⟩) =>
        .ok (.str (String.ofList cs), ⟨rest, by simp only [List.length_cons]; omega⟩)
    | '[' :: inside =>
      match array (value mark levels) inside with
      | .error e => .error e
      | .ok (values, ⟨rest, h⟩) => .ok (.arr values, ⟨rest, by simp only [List.length_cons]; omega⟩)
    | '{' :: inside =>
      match object mark (value mark levels) inside with
      | .error e => .error e
      | .ok (all, ⟨rest, h⟩) => .ok (.obj all, ⟨rest, by simp only [List.length_cons]; omega⟩)
    | text => scalar text

/-! ## Whole texts -/

/-- The value of a text that has no byte-order mark. -/
def ofChars? (mark : Char) (text : List Char) : Except ReadError Json :=
  match value mark (text.length + 1) (skipSpace text) with
  | .error stop => .error (stop.inText text)
  | .ok (j, ⟨rest, _⟩) =>
    match skipSpace rest with
    | [] => .ok j
    | other => .error (Stop.inText text (.broken .trailingText other.length))

/-- The mark that may open encoded text. -/
def byteOrderMark : Char := '\ufeff'

/-- The value of a text, in which a byte-order mark is an error. -/
def ofString? (text : String) : Except ReadError Json :=
  match text.toList with
  | c :: rest =>
    if c = byteOrderMark then
      .error (Stop.inText (c :: rest) (.broken .byteOrderMark (rest.length + 1)))
    else ofChars? Text.replacementMark (c :: rest)
  | [] => ofChars? Text.replacementMark []

end Reckoner.Json
