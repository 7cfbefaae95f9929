import Reckoner.Text.Hex
import Reckoner.Text.Printable

/-!
# Quoted text

How a text is shown inside a message: between quotation marks, with whatever would not be
readable written as an escape.
-/

namespace Reckoner.Text

/-- The mark put around a text: apostrophes, unless the text holds an apostrophe and no quotation
mark. -/
def quoteMark (text : List Char) : Char :=
  if '\'' ∈ text ∧ '"' ∉ text then '"' else '\''

/-- One character of a quoted text. The mark and the backslash are escaped by a backslash, the
common controls by their letter, and what is not printable by its number in two, four or eight
digits. -/
def quoteChar (mark : Char) (c : Char) : List Char :=
  if c = mark ∨ c = '\\' then ['\\', c]
  else if c = '\t' then ['\\', 't']
  else if c = '\n' then ['\\', 'n']
  else if c = '\r' then ['\\', 'r']
  else if isPrintable c then [c]
  else if c.toNat ≤ 0xFF then ['\\', 'x'] ++ hex 2 c.toNat
  else if c.toNat ≤ 0xFFFF then ['\\', 'u'] ++ hex 4 c.toNat
  else ['\\', 'U'] ++ hex 8 c.toNat

def quoted (text : List Char) : List Char :=
  let mark := quoteMark text
  mark :: text.flatMap (quoteChar mark) ++ [mark]

example : quoted ['a', '\''] = ['"', 'a', '\'', '"'] := by decide +kernel
example : quoted ['\'', '"'] = ['\'', '\\', '\'', '"', '\''] := by decide +kernel
example : quoted ['\x7f'] = ['\'', '\\', 'x', '7', 'f', '\''] := by decide +kernel

end Reckoner.Text
