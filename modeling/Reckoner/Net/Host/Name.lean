import Reckoner.Net.Host.Composition
import Reckoner.Net.Host.Context
import Reckoner.Net.Host.Direction
import Reckoner.Net.Host.Permitted
import Reckoner.Net.Host.Punycode

/-!
# Names of hosts

A name in ASCII is taken as it is. Any other is made of labels with points between them, in either
case, and each label has a written form in ASCII, `written?`.
-/

namespace Reckoner.Net.Host

open Text (lowerCase pieces)

def isAscii (c : Char) : Bool :=
  c.toNat < 0x80

/-! ## Labels -/

/-- Hyphens stand neither at the ends of a label nor together in its third and fourth place. -/
def hasFairHyphens (label : List Char) : Bool :=
  label.head? ≠ some '-' && label.getLast? ≠ some '-' && (label.drop 2).take 2 ≠ ['-', '-']

def isLabel (label : List Char) : Bool :=
  !label.isEmpty && label.all isPermitted && hasFairHyphens label && !label.head?.any isMark &&
    isComposed label && fitsContext label && hasDirection label

/-- What the written form of a label opens with, if it is not the label itself. -/
def encodedMark : List Char := ['x', 'n', '-', '-']

/-- Whether a text behind the mark of encoded labels stands for a label. -/
def isEncodedLabel (encoded : List Char) : Bool :=
  !encoded.isEmpty && encoded.getLast? ≠ some '-' && (Punycode.decode? encoded).any isLabel

/-- Whether a text stands for a label, as itself or, in ASCII, as its written form. -/
def standsForLabel (text : List Char) : Bool :=
  if text.all isAscii && encodedMark.isPrefixOf text then
    isEncodedLabel (text.drop encodedMark.length)
  else isLabel text

/-- The length that the written form of a label may have. -/
def maxLabelLength : Nat := 63

/-- The written form of a label. -/
def written? (label : List Char) : Option (List Char) :=
  let written := if label.all isAscii then label else encodedMark ++ Punycode.encode label
  if standsForLabel label && written.length ≤ maxLabelLength then some written else none

/-! ## Names -/

/-- A point between labels, in any of its widths, as the narrow one. -/
def narrowPoint (c : Char) : Char :=
  if c == '\u3002' || c == '\uff0e' || c == '\uff61' then '.' else c

/-- The labels of a name. A point may follow the last one. -/
def labels (name : List Char) : List (List Char) :=
  let all := pieces '.' ((name.flatMap lowerCase).map narrowPoint)
  if all.getLast? = some [] then all.dropLast else all

/-- The length that the written form of a name may have, without a point at its end. -/
def maxNameLength : Nat := 253

def isName (host : List Char) : Bool :=
  host.all isAscii ||
    match (labels host).mapM written? with
    | some written => (['.'].intercalate written).length ≤ maxNameLength
    | none => false

end Reckoner.Net.Host
