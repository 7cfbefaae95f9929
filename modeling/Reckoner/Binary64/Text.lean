import Reckoner.Binary64.Decimal
import Reckoner.Text.Case

/-!
# Decimal text of binary64 numbers

A decimal with a sign, a fraction and an exponent, as it stands in data, and its value.
-/

namespace Reckoner

open Text (Digit)
open Text.Digits (split value)

structure DecimalText where
  negative : Bool
  whole : List Digit
  /-- The digits behind the point, if there is one. -/
  fraction? : Option (List Digit)
  /-- The power of ten, if one is written. -/
  exponent? : Option Int
  deriving DecidableEq, Repr

namespace DecimalText

/-- A fraction at the front of a text: a point and at least one digit. -/
def frontFraction (text : List Char) : Option (List Digit) × List Char :=
  match text with
  | '.' :: rest =>
    match split rest with
    | ([], _) => (none, text)
    | (ds, rest') => (some ds, rest')
  | _ => (none, text)

/-- An exponent at the front of a text: its letter, perhaps a sign, and at least one digit. -/
def frontExponent (text : List Char) : Option Int × List Char :=
  match text with
  | c :: rest =>
    if c = 'e' ∨ c = 'E' then
      let (negative, unsigned) := Text.splitSign rest
      match split unsigned with
      | ([], _) => (none, text)
      | (ds, rest') => (some (if negative then -(value ds : Int) else value ds), rest')
    else (none, text)
  | [] => (none, text)

/-- Whether a decimal is spelled as an integer. -/
def isWhole (d : DecimalText) : Bool :=
  d.fraction?.isNone && d.exponent?.isNone

def fractionDigits (d : DecimalText) : List Digit :=
  d.fraction?.getD []

/-- An exponent so large that, after as many digits, only an infinity or a zero is left; beyond it
the exponent does not matter. -/
def exponentBound (d : DecimalText) : Int :=
  400 + d.whole.length + d.fractionDigits.length

def toBinary64 (d : DecimalText) : Binary64 :=
  let coefficient := value (d.whole ++ d.fractionDigits)
  let exponent := max (-d.exponentBound) (min d.exponentBound (d.exponent?.getD 0))
  if coefficient = 0 then Binary64.zero d.negative
  else Binary64.ofDecimal d.negative coefficient (exponent - d.fractionDigits.length)

end DecimalText

/-! ## Lenient reading -/

/-- The names of the values that are not finite. -/
def Binary64.ofName? (name : List Char) : Option (Bool → Binary64) :=
  match name.map Text.toLower with
  | ['n', 'a', 'n'] => some fun _ => .nan
  | ['i', 'n', 'f'] => some .infinite
  | ['i', 'n', 'f', 'i', 'n', 'i', 't', 'y'] => some .infinite
  | _ => none

/-- The number of a whole text: a sign, then a name, or digits with at least one on either side of
the point, and an exponent. -/
def Binary64.ofChars? (text : List Char) : Option Binary64 :=
  let (negative, unsigned) := Text.splitSign text
  match ofName? unsigned with
  | some named => some (named negative)
  | none =>
    let (whole, rest) := split unsigned
    let (fraction, rest) :=
      match rest with
      | '.' :: rest => split rest
      | _ => ([], rest)
    let (exponent?, rest) := DecimalText.frontExponent rest
    if whole.isEmpty && fraction.isEmpty || !rest.isEmpty then none
    else some (DecimalText.toBinary64 ⟨negative, whole, some fraction, exponent?⟩)

end Reckoner
