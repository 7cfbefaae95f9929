import Reckoner.Json.Basic
import Reckoner.Binary64.Shortest
import Reckoner.Text.Quoted

/-!
# JSON text

Writing a value as one line. The styles differ in the blanks behind separators and in whether
characters outside ASCII are escaped.
-/

namespace Reckoner.Json

structure Style where
  /-- What stands between two items or members. -/
  itemSeparator : List Char
  /-- What stands between a name and its value. -/
  nameSeparator : List Char
  /-- Whether everything outside the printable range of ASCII is escaped. -/
  asciiOnly : Bool

/-- A blank behind each separator, and ASCII only. -/
def Style.spaced : Style := ⟨[',', ' '], [':', ' '], true⟩

/-- No blanks, and characters as they are. -/
def Style.compact : Style := ⟨[','], [':'], false⟩

/-- A sixteen-bit unit as an escape. -/
def unitEscape (n : Nat) : List Char :=
  ['\\', 'u'] ++ Text.hex 4 n

/-- A character as an escape. One beyond sixteen bits takes two units. -/
def charEscape (c : Char) : List Char :=
  if c.toNat < 0x10000 then unitEscape c.toNat
  else
    let n := c.toNat - 0x10000
    unitEscape (0xD800 + n / 0x400) ++ unitEscape (0xDC00 + n % 0x400)

/-- A character inside a string. -/
def Style.char (style : Style) (c : Char) : List Char :=
  if c = '"' ∨ c = '\\' then ['\\', c]
  else if c = '\n' then ['\\', 'n']
  else if c = '\r' then ['\\', 'r']
  else if c = '\t' then ['\\', 't']
  else if c = '\x0c' then ['\\', 'f']
  else if c = '\x08' then ['\\', 'b']
  else if c.toNat < 0x20 then charEscape c
  else if style.asciiOnly ∧ 0x7F ≤ c.toNat then charEscape c
  else [c]

def Style.string (style : Style) (s : String) : List Char :=
  '"' :: s.toList.flatMap style.char ++ ['"']

/-- A floating-point number. The three values that are no numbers of JSON have names. -/
def floatChars : Binary64 → List Char
  | .nan => ['N', 'a', 'N']
  | .infinite negative =>
    (if negative then ['-'] else []) ++ ['I', 'n', 'f', 'i', 'n', 'i', 't', 'y']
  | x => NumberFormat.standard.chars x

mutual

def chars (style : Style) : Json → List Char
  | null => ['n', 'u', 'l', 'l']
  | bool true => ['t', 'r', 'u', 'e']
  | bool false => ['f', 'a', 'l', 's', 'e']
  | int z => Text.Digits.textInt z
  | float x => floatChars x
  | str s => style.string s
  | arr items => '[' :: itemChars style items ++ [']']
  | obj members => '{' :: memberChars style members ++ ['}']

def itemChars (style : Style) : List Json → List Char
  | [] => []
  | [item] => chars style item
  | item :: items => chars style item ++ style.itemSeparator ++ itemChars style items

def memberChars (style : Style) : List (String × Json) → List Char
  | [] => []
  | [(name, value)] => style.string name ++ style.nameSeparator ++ chars style value
  | (name, value) :: members =>
    style.string name ++ style.nameSeparator ++ chars style value ++ style.itemSeparator ++
      memberChars style members

end

def render (style : Style) (j : Json) : String :=
  String.ofList (chars style j)

end Reckoner.Json
