import Reckoner.Binary64.Text
import Reckoner.Issue
import Reckoner.Text.Blank

/-!
# Numbers in settings

Settings are texts, and their numbers are read leniently: blanks around a number, a plus sign,
leading zeros, underscores between digits and a fraction of zeros do no harm.
-/

namespace Reckoner.Settings

open Text (isNumberSpace stripEnds)

/-! ## Underscores -/

/-- Whether two underscores follow each other. -/
def hasDoubleUnderscore : List Char → Bool
  | '_' :: '_' :: _ => true
  | _ :: rest => hasDoubleUnderscore rest
  | [] => false

/-- A text without its underscores, if all of them stand alone and inside. -/
def joinUnderscores (text : List Char) : List Char :=
  if text.head? = some '_' ∨ text.getLast? = some '_' ∨ hasDoubleUnderscore text then text
  else text.filter (· ≠ '_')

/-! ## Integers -/

/-- What is left behind leading zeros, of which the last character was read before. The last zero
stays if nothing or a point follows. -/
def behindZeros (last : Char) : List Char → Option (List Char)
  | [] => some [last]
  | c :: rest =>
    if c = '0' ∨ c = '_' then behindZeros c rest
    else if c = '.' then some (last :: c :: rest)
    else if Text.isDigit c then some (c :: rest)
    else none

/-- A text without its leading zeros and the underscores among them. It has to begin with a digit.
-/
def dropZeros : List Char → Option (List Char)
  | [] => none
  | c :: rest =>
    if c = '0' then behindZeros c rest else if Text.isDigit c then some (c :: rest) else none

/-- A text without a point behind which there are zeros only. -/
def dropZeroFraction (text : List Char) : List Char :=
  match text.span (· ≠ '.') with
  | (whole, '.' :: fraction) => if fraction.all (· = '0') then whole else text
  | _ => text

/-- Splits a minus sign off; a plus sign counts for nothing. -/
def splitMinus : List Char → Bool × List Char
  | '+' :: '-' :: rest => (false, '-' :: rest)
  | '+' :: rest => (false, rest)
  | '-' :: rest => (true, rest)
  | text => (false, text)

def readInteger (text : List Char) : Checked Int :=
  let (negative, unsigned) := splitMinus (stripEnds isNumberSpace text)
  match dropZeros unsigned with
  | none => Checked.fail .intParsing
  | some digits =>
    match Text.Digits.split (joinUnderscores (dropZeroFraction digits)) with
    | (d :: ds, []) =>
      -- The first digit counts too.
      if Text.Digits.maxRun ≤ ds.length then Checked.fail .intParsingSize
      else
        let magnitude := Text.Digits.value (d :: ds)
        .ok (if negative then -magnitude else magnitude)
    | _ => Checked.fail .intParsing

def readPositive (text : List Char) : Checked { n : Nat // 0 < n } :=
  match readInteger text with
  | .error issues => .error issues
  | .ok z => if h : 0 < z.toNat then .ok ⟨z.toNat, h⟩ else Checked.fail .tooSmall

/-! ## Floating-point numbers -/

/-- The floating-point number of a text. Blanks and underscores are not forgiven together. -/
def readFloat (text : List Char) : Checked Binary64 :=
  match Binary64.ofChars? (stripEnds isNumberSpace text) with
  | some x => .ok x
  | none => (Binary64.ofChars? (joinUnderscores text)).elim (Checked.fail .floatParsing) .ok

end Reckoner.Settings
