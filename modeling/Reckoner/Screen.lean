import Reckoner.Text.Blank
import Reckoner.Text.Digits

/-!
# Screening

What can be said about a text without parsing it: which characters it has, and its rough shape.
`isCandidate` decides whether a text that somebody types is worth evaluating at all; a candidate can
still turn out to be malformed.
-/

namespace Reckoner.Screen

open Text (isBlank isDigit trim)

def isOperator (c : Char) : Bool :=
  c == '+' || c == '-' || c == '*' || c == '/' || c == '^' || c == '%'

def isAllowed (c : Char) : Bool :=
  isDigit c || isOperator c || c == '(' || c == ')' || c == '.' || isBlank c

/-- A text that is not empty and has characters of expressions only. -/
def hasAllowedCharacters (text : List Char) : Bool :=
  !text.isEmpty && text.all isAllowed

/-- Digits, and perhaps a point with or without digits behind it. -/
def isPlainNumber (text : List Char) : Bool :=
  match Text.Digits.split text with
  | ([], _) => false
  | (_, []) => true
  | (_, '.' :: rest) => rest.all isDigit
  | _ => false

def isBareNumber (text : List Char) : Bool :=
  match text with
  | '-' :: rest => isPlainNumber rest
  | _ => isPlainNumber text

/-- A text with an operator, or a bare number. -/
def looksLikeExpression (text : List Char) : Bool :=
  text.any isOperator || isBareNumber text

/-- The least length of a candidate with an operator. -/
def minOperationLength : Nat := 3

/-- Whether a text is worth evaluating: once trimmed it has characters of expressions only, among
them a digit, and it is a bare number or long enough for an operation. -/
def isCandidate (text : List Char) : Bool :=
  let cleaned := trim text
  hasAllowedCharacters cleaned && cleaned.any isDigit &&
    (cleaned.any isOperator && minOperationLength ≤ cleaned.length || isBareNumber cleaned)

end Reckoner.Screen
