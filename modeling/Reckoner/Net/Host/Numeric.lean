import Reckoner.Text.Digits
import Reckoner.Text.Hex
import Reckoner.Text.Pieces

/-!
# Numeric hosts

Hosts that are four octets, or groups in square brackets, and what looks like one of them.
-/

namespace Reckoner.Net.Host

open Text (isDigit pieces)

/-! ## Octets and groups -/

/-- A number from 0 to 255 in its shortest form. -/
def isOctet (text : List Char) : Bool :=
  match Text.Digits.split text with
  | ([], _) => false
  | (d :: ds, []) => Text.Digits.value (d :: ds) ≤ 255 && ds.length ≤ 2 && (d.val ≠ 0 || ds.isEmpty)
  | _ => false

/-- Four octets with points between them. -/
def isFourOctets (text : List Char) : Bool :=
  let octets := pieces '.' text
  octets.length == 4 && octets.all isOctet

/-- Up to four hexadecimal digits. -/
def isGroup (text : List Char) : Bool :=
  !text.isEmpty && text.length ≤ 4 && text.all fun c => (Text.hexValue? c).isSome

/-- The count of groups in a run of pieces. The last piece may be four octets, which count as two
groups. -/
def groupCount? (octetsLast : Bool) : List (List Char) → Option Nat
  | [] => some 0
  | [piece] =>
    if isGroup piece then some 1
    else if octetsLast && isFourOctets piece then some 2
    else none
  | piece :: more => if isGroup piece then (groupCount? octetsLast more).map (· + 1) else none

/-- A run of groups with colons between them; the empty text is a run without groups. -/
def runCount? (octetsLast : Bool) (text : List Char) : Option Nat :=
  if text.isEmpty then some 0 else groupCount? octetsLast (pieces ':' text)

/-- The text before the first pair of colons and the text behind it. -/
def splitGap : List Char → Option (List Char × List Char)
  | ':' :: ':' :: rest => some ([], rest)
  | c :: rest => (splitGap rest).map fun (left, right) => (c :: left, right)
  | [] => none

/-- Eight groups, or fewer with a gap in one place. -/
def areGroups (text : List Char) : Bool :=
  match splitGap text with
  | none => runCount? true text == some 8
  | some (left, right) =>
    match runCount? false left, runCount? true right with
    | some l, some r => l + r ≤ 7
    | _, _ => false

/-- The inside of square brackets: groups, and perhaps a zone behind a percent sign. -/
def isBracketed (inside : List Char) : Bool :=
  match pieces '%' inside with
  | [groups] => areGroups groups
  | [groups, zone] => areGroups groups && !zone.isEmpty
  | _ => false

/-! ## Likeness -/

mutual

/-- Whether a text begins a run of digits that is followed by a number of other runs, each after one
character of any kind. -/
def beginsRuns (more : Nat) : List Char → Bool
  | [] => false
  | c :: rest => isDigit c && goesOnRuns more rest

/-- Whether a text goes on in such a run. -/
def goesOnRuns (more : Nat) : List Char → Bool
  | [] => more == 0
  | c :: rest =>
    isDigit c && goesOnRuns more rest ||
      match more with
      | 0 => false
      | more + 1 => beginsRuns more rest

end

end Reckoner.Net.Host
