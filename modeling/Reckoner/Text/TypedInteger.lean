import Reckoner.Text.Blank
import Reckoner.Text.ScriptDigits

/-!
# Integers as they are typed

An integer may have blanks around it, a sign of either kind, digits of any script, and single
underscores between digits.
-/

namespace Reckoner.Text

/-- The digits of a whole run in which single underscores may separate them. -/
def separatedDigits? : List Char → Option (List Digit)
  | [] => none
  | [c] => (scriptDigit? c).map ([·])
  | c :: '_' :: rest => do
    let d ← scriptDigit? c
    let ds ← separatedDigits? rest
    return d :: ds
  | c :: rest => do
    let d ← scriptDigit? c
    let ds ← separatedDigits? rest
    return d :: ds

/-- The integer of a typed text. Too long a run of digits is not read. -/
def typedInteger? (text : List Char) : Option Int := do
  let (negative, unsigned) := splitSign (stripEnds isNumberSpace text)
  let ds ← separatedDigits? unsigned
  if Digits.maxRun < ds.length then none
  else
    let magnitude := Digits.value ds
    return if negative then -magnitude else magnitude

end Reckoner.Text
