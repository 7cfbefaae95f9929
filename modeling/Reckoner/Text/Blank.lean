/-!
# Blanks

The characters that count as white space, and the two ways of removing them:

* `trim` removes them at the two ends of a text,
* `squeeze` removes them everywhere.

Text is handled as a list of characters, so that positions and lengths count code points.
-/

namespace Reckoner.Text

/-- White space: the control characters from tab to carriage return, the four information
separators, the space, the next-line control, and the spaces and line separators of the wider
alphabet. Zero-width characters are not white space. -/
def isBlank (c : Char) : Bool :=
  let n := c.toNat
  (0x9 ≤ n && n ≤ 0xD) || (0x1C ≤ n && n ≤ 0x20) || n == 0x85 || n == 0xA0 || n == 0x1680
    || (0x2000 ≤ n && n ≤ 0x200A) || n == 0x2028 || n == 0x2029 || n == 0x202F || n == 0x205F
    || n == 0x3000

/-- The text without the characters of a class at its two ends. -/
def stripEnds (p : Char → Bool) (text : List Char) : List Char :=
  ((text.dropWhile p).reverse.dropWhile p).reverse

def trim (text : List Char) : List Char :=
  stripEnds isBlank text

/-- The blanks that may stand around a number: all but the four information separators. -/
def isNumberSpace (c : Char) : Bool :=
  isBlank c && !(0x1C ≤ c.toNat && c.toNat ≤ 0x1F)

def squeeze (text : List Char) : List Char :=
  text.filter (!isBlank ·)

/-- The text without the run of a given character at its end. -/
def dropEnd (c : Char) (text : List Char) : List Char :=
  (text.reverse.dropWhile (· == c)).reverse

@[simp] theorem squeeze_nil : squeeze [] = [] := rfl

theorem squeeze_append (s t : List Char) : squeeze (s ++ t) = squeeze s ++ squeeze t :=
  List.filter_append ..

end Reckoner.Text
