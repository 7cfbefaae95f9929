import Reckoner.Net.Host
import Reckoner.Text.Pieces
import Reckoner.Text.TypedInteger

/-!
# Addresses

What an address is made of, which addresses can be asked at all, and how one is seen from another.
-/

namespace Reckoner.Net

open Text (pieces splitFirst? splitLast?)

-- The zero of a sum is the numeral, whatever else is in scope.
attribute [local instance (high)] Zero.ofOfNat0

/-! ## Addresses -/

/-- The parts of an address, but for the fragment at its end. -/
structure Address where
  scheme : List Char
  user : List Char
  host : List Char
  portNumber : List Char
  path : List Char
  query : List Char
  deriving Repr

def isSchemeChar (c : Char) : Bool :=
  c.isAlphanum || c == '+' || c == '.' || c == '-'

/-- The scheme in front of a colon, and what follows. -/
def splitScheme (text : List Char) : List Char × List Char :=
  match text.span isSchemeChar with
  | ([], ':' :: rest) => ([], rest)
  | (c :: scheme, ':' :: rest) => if c.isAlpha then (c :: scheme, rest) else ([], text)
  | _ => ([], text)

/-- The host and what stands behind it. One that opens with a bracket ends with the last closing
one. -/
def splitHost (text : List Char) : List Char × List Char :=
  let named := text.span fun c => c ≠ ':' && c ≠ '@'
  match text with
  | '[' :: rest =>
    match splitLast? ']' rest with
    | some (inside, behind) => ('[' :: inside ++ [']'], behind)
    | none => named
  | _ => named

def Address.ofChars (text : List Char) : Address :=
  let (scheme, rest) := splitScheme text
  let (authority, rest) :=
    match rest with
    | '/' :: '/' :: rest => rest.span fun c => c ≠ '/' && c ≠ '?' && c ≠ '#'
    | _ => ([], rest)
  let (user, located) := (splitFirst? '@' authority).getD ([], authority)
  let (host, behind) := splitHost located
  let portNumber :=
    match behind with
    | ':' :: number => number
    | number => number
  let (path, rest) := rest.span fun c => c ≠ '?' && c ≠ '#'
  let query :=
    match rest with
    | '?' :: rest => rest.takeWhile (· ≠ '#')
    | _ => []
  ⟨scheme, user, host, portNumber, path, query⟩

def isControl (c : Char) : Bool :=
  c.toNat < 0x20 || c.toNat == 0x7F

/-- The length that an address and each of its parts may have. -/
def maxAddressLength : Nat := 65536

/-- Ports are left out or are integers. -/
def isPortNumber (number : List Char) : Bool :=
  number.isEmpty || (Text.typedInteger? number).isSome

namespace Address

/-- Whether an address has a path and nothing in front of it. -/
def isBare (a : Address) : Bool :=
  a.scheme.isEmpty && a.user.isEmpty && a.host.isEmpty && a.portNumber.isEmpty

/-- A bare address may not be taken for something else. -/
def isClear (a : Address) : Bool :=
  if a.isBare then
    match a.path with
    | '/' :: '/' :: _ => false
    | ':' :: _ => false
    | _ => true
  else true

def ofText? (text : List Char) : Option Address :=
  let a := ofChars text
  if text.length ≤ maxAddressLength && !text.any isControl && isHost a.host &&
      isPortNumber a.portNumber && a.isClear then
    some a
  else none

/-! ## Paths -/

/-- Adds a segment to those of a path: a single dot stands for nothing, and two dots take the
segment before away. -/
def addSegment (segments : List (List Char)) (segment : List Char) : List (List Char) :=
  if segment = ['.'] then segments
  else if segment = ['.', '.'] then
    if segments = [[]] then segments else segments.dropLast
  else segments ++ [segment]

/-- A path without the segments that are made of dots. -/
def resolveDots (path : List Char) : List Char :=
  ['/'].intercalate ((pieces '/' path).foldl addSegment [])

/-- Whether an address tells by itself where a request goes. -/
def isWhole (a : Address) : Bool :=
  !a.scheme.isEmpty && !a.host.isEmpty

/-- The path of an address that has a scheme or an authority has no dots; that of a bare one is
kept until it is known what it is relative to. -/
def ownPath (a : Address) : List Char :=
  if a.isBare then a.path else resolveDots a.path

/-- An address as it is seen from a base. A whole one stands for itself; any other gives a path
below that of the base, which ends with a slash, and a query. All slashes in front of its path count
for nothing. -/
def seenFrom (base a : Address) : Address :=
  if a.isWhole then { a with path := a.ownPath }
  else
    { base with
      path := resolveDots (base.path ++ a.ownPath.dropWhile (· = '/'))
      query := a.query }

/-! ## Lengths -/

/-- The length of a text in which a character that does not stand for itself is written as its bytes
behind percent signs. -/
def escapedLength (stands : Char → Bool) (text : List Char) : Nat :=
  (text.map fun c => if stands c then 1 else 3 * c.utf8Size).sum

def isVisible (c : Char) : Bool :=
  0x20 < c.toNat && c.toNat < 0x7F

/-- The characters that stand for themselves in queries. -/
def standsInQuery (c : Char) : Bool :=
  isVisible c && !(['"', '#', '<', '>'].contains c)

/-- The characters that stand for themselves in paths. -/
def standsInPath (c : Char) : Bool :=
  standsInQuery c && !(['?', '\x60', '\x7b', '\x7d'].contains c)

/-- Whether the parts of an address are short enough once they are escaped. -/
def isShort (a : Address) : Bool :=
  escapedLength standsInPath a.path ≤ maxAddressLength &&
    escapedLength standsInQuery a.query ≤ maxAddressLength

/-- The characters that stand for themselves, or have a substitute of one character, in the names
and values of parameters. -/
def standsInParameter (c : Char) : Bool :=
  c.isAlphanum || c == ' ' || c == '_' || c == '.' || c == '-' || c == '~'

/-- The length of the query that parameters make up: an equals sign in each, and a mark between
two. -/
def parametersLength (parameters : List (String × String)) : Nat :=
  (parameters.map fun (name, value) =>
    escapedLength standsInParameter name.toList +
      escapedLength standsInParameter value.toList + 2).sum - 1

end Address

/-- Whether an address can be asked with some parameters. -/
def canBeAsked (text : List Char) (parameters : List (String × String)) : Bool :=
  match Address.ofText? text with
  | none => false
  | some a =>
    Address.escapedLength Address.standsInPath a.ownPath ≤ maxAddressLength &&
      Address.parametersLength parameters ≤ maxAddressLength

end Reckoner.Net
