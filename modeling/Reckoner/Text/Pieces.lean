/-!
# Pieces

A text cut at every occurrence of a separator, or at the first or last one.
-/

namespace Reckoner.Text

/-- The pieces between the occurrences of a separator. There is one more than there are
separators. -/
def pieces (separator : Char) : List Char → List (List Char)
  | [] => [[]]
  | c :: text =>
    if c = separator then [] :: pieces separator text
    else
      match pieces separator text with
      | [] => [[c]]
      | piece :: more => (c :: piece) :: more

/-- The text before the first occurrence of a character and the text behind it. -/
def splitFirst? (c : Char) (text : List Char) : Option (List Char × List Char) :=
  match text.span (· ≠ c) with
  | (before, _ :: behind) => some (before, behind)
  | (_, []) => none

/-- The text before the last occurrence of a character and the text behind it. -/
def splitLast? (c : Char) (text : List Char) : Option (List Char × List Char) :=
  (splitFirst? c text.reverse).map fun (behind, before) => (before.reverse, behind.reverse)

/-- A text without the line feed at its end. -/
def dropLineFeed (text : List Char) : List Char :=
  if text.getLast? = some '\n' then text.dropLast else text

end Reckoner.Text
